import Ros2WsDemo.Lib.FrameTree
import Ros2WsDemo.Lib.Sequential
import Ros2WsDemo.Transforms.Broadcast

/-!
# The shape of the tree

The frames with what was last broadcast of each, what this tree looks like after any
broadcasts, and what each of them does to it.  The robot may have two parents in turn.  The
stamps have no part in it, so that this is not what a look-up between two broadcasts gives.
-/

namespace Ros2WsDemo.Transforms

open Effect FrameTree

variable {K : Type} [Field K]

/-! ## The answers of the platform -/

def poseOf : WorkerEvent K → Option (Pose K)
  | .op .getPose (.ok pose) => some pose
  | _ => none

/-- The poses the platform has answered, the latest one last. -/
def poses (tr : List (WorkerEvent K)) : List (Pose K) := tr.filterMap poseOf

def scanOf : WorkerEvent K → Option (SystemScan K)
  | .op .getLaserScan (.ok tLs) => some tLs
  | .op .getRawLaserScan (.ok tLs) => some tLs
  | _ => none

def scans (tr : List (WorkerEvent K)) : List (SystemScan K) := tr.filterMap scanOf

theorem poses_snoc (tr : List (WorkerEvent K)) (e : WorkerEvent K) :
    poses (tr ++ [e]) = poses tr ++ (poseOf e).toList := by
  rw [poses, List.filterMap_append]
  cases h : poseOf e <;> simp [poses, h]

theorem scans_snoc (tr : List (WorkerEvent K)) (e : WorkerEvent K) :
    scans (tr ++ [e]) = scans tr ++ (scanOf e).toList := by
  rw [scans, List.filterMap_append]
  cases h : scanOf e <;> simp [scans, h]

theorem poses_quiet {tr : List (WorkerEvent K)} {e : WorkerEvent K} (h : poseOf e = none) :
    poses (tr ++ [e]) = poses tr := by
  rw [poses_snoc, h, Option.toList_none, List.append_nil]

theorem scans_quiet {tr : List (WorkerEvent K)} {e : WorkerEvent K} (h : scanOf e = none) :
    scans (tr ++ [e]) = scans tr := by
  rw [scans_snoc, h, Option.toList_none, List.append_nil]

/-! ## The broadcasts -/

def sentOf : WorkerEvent K → Option (Transform K)
  | .op (.sendTransform t) _ => some t
  | _ => none

/-- Every frame with what was last broadcast of it. -/
def lastBroadcasts (tr : List (WorkerEvent K)) : FrameTree String (Motion K) :=
  (tr.filterMap sentOf).foldl (fun tree t => tree.place t.childFrameId t.frameId (motion t))
    fun _ => none

theorem lastBroadcasts_quiet {tr : List (WorkerEvent K)} {e : WorkerEvent K}
    (h : sentOf e = none) : lastBroadcasts (tr ++ [e]) = lastBroadcasts tr := by
  rw [lastBroadcasts, List.filterMap_append, List.filterMap_cons_none h, List.filterMap_nil,
    List.append_nil, lastBroadcasts]

theorem lastBroadcasts_sent (tr : List (WorkerEvent K)) (t : Transform K) (u : Unit) :
    lastBroadcasts (tr ++ [.op (.sendTransform t) u]) =
      (lastBroadcasts tr).place t.childFrameId t.frameId (motion t) := by
  rw [lastBroadcasts, List.filterMap_append, List.foldl_append]
  rfl

/-! ## The shape -/

/-- The frames are different, except that both parents of the robot may be the same. -/
structure Params.Distinct (params : Params) : Prop where
  odom_ne_map : params.odomFrame ≠ params.laser.mapFrame
  robotPose_ne_map : params.robotPoseFrame ≠ params.laser.mapFrame
  robot_ne_map : params.robotFrame ≠ params.laser.mapFrame
  laser_ne_map : params.laser.laserFrame ≠ params.laser.mapFrame
  robot_ne_odom : params.robotFrame ≠ params.odomFrame
  robot_ne_robotPose : params.robotFrame ≠ params.robotPoseFrame
  laser_ne_odom : params.laser.laserFrame ≠ params.odomFrame
  laser_ne_robotPose : params.laser.laserFrame ≠ params.robotPoseFrame
  laser_ne_robot : params.laser.laserFrame ≠ params.robotFrame

/-- A frame in which a worker broadcasts the robot. -/
def Params.IsParent (params : Params) (frame : String) : Prop :=
  frame = params.odomFrame ∨ frame = params.robotPoseFrame

/-- The tree shows the robot at the pose `shown`, and below the map nothing but the
frames of the parameters. -/
structure Shape (quaternionOfYaw : K → Quaternion K) (params : Params)
    (tf : FrameTree String (Motion K)) (shown : Option (Pose K)) : Prop where
  map : tf params.laser.mapFrame = none
  parent : ∀ frame, params.IsParent frame → ∀ e, tf frame = some e →
    params.fixedOdomMapTf = true ∧ e = (params.laser.mapFrame, 1)
  robot : match shown with
    | none => tf params.robotFrame = none
    | some pose => ∃ frame, params.IsParent frame ∧
        tf params.robotFrame = some (frame, placement quaternionOfYaw pose.planar) ∧
        (params.fixedOdomMapTf = true → tf frame = some (params.laser.mapFrame, 1))
  laser : ∀ e, tf params.laser.laserFrame = some e → e.1 = params.laser.mapFrame
  others : ∀ f, ¬params.IsParent f → f ≠ params.robotFrame → f ≠ params.laser.laserFrame →
    tf f = none

section Shape

variable {quaternionOfYaw : K → Quaternion K} {params : Params} {tf : FrameTree String (Motion K)}
  {shown : Option (Pose K)} {frame : String}

theorem shape_empty : Shape quaternionOfYaw params (fun _ => none) none where
  map := rfl
  parent := nofun
  robot := rfl
  laser := nofun
  others := fun _ _ _ _ => rfl

theorem Params.Distinct.parent_ne_map (hframes : params.Distinct) (h : params.IsParent frame) :
    frame ≠ params.laser.mapFrame := by
  rcases h with rfl | rfl
  · exact hframes.odom_ne_map
  · exact hframes.robotPose_ne_map

theorem Params.Distinct.robot_ne_parent (hframes : params.Distinct) (h : params.IsParent frame) :
    params.robotFrame ≠ frame := by
  rcases h with rfl | rfl
  · exact hframes.robot_ne_odom
  · exact hframes.robot_ne_robotPose

theorem Params.Distinct.laser_ne_parent (hframes : params.Distinct) (h : params.IsParent frame) :
    params.laser.laserFrame ≠ frame := by
  rcases h with rfl | rfl
  · exact hframes.laser_ne_odom
  · exact hframes.laser_ne_robotPose

/-! ## Broadcasts -/

theorem Shape.fixed (hframes : params.Distinct) (h : Shape quaternionOfYaw params tf shown)
    (hfixed : params.fixedOdomMapTf = true) (hframe : params.IsParent frame) :
    Shape quaternionOfYaw params (tf.place frame params.laser.mapFrame 1) shown where
  map := by
    rw [place_of_ne (hframes.parent_ne_map hframe).symm]
    exact h.map
  parent f hf e he := by
    by_cases hff : f = frame
    · subst hff
      rw [place_self] at he
      exact ⟨hfixed, (Option.some.inj he).symm⟩
    · rw [place_of_ne hff] at he
      exact h.parent f hf e he
  robot := by
    have hrobot := h.robot
    rw [place_of_ne (hframes.robot_ne_parent hframe)]
    cases shown with
    | none => exact hrobot
    | some pose =>
        obtain ⟨f, hf, hedge, hmap⟩ := hrobot
        refine ⟨f, hf, hedge, fun _ => ?_⟩
        by_cases hff : f = frame
        · rw [hff, place_self]
        · rw [place_of_ne hff]
          exact hmap hfixed
  laser e he := by
    rw [place_of_ne (hframes.laser_ne_parent hframe)] at he
    exact h.laser e he
  others f hf hrobot hlaser := by
    have hne : f ≠ frame := by
      rintro rfl
      exact hf hframe
    rw [place_of_ne hne]
    exact h.others f hf hrobot hlaser

theorem Shape.robotAt (hframes : params.Distinct) (h : Shape quaternionOfYaw params tf shown)
    (hframe : params.IsParent frame)
    (hmap : params.fixedOdomMapTf = true → tf frame = some (params.laser.mapFrame, 1))
    (pose : Pose K) :
    Shape quaternionOfYaw params
      (tf.place params.robotFrame frame (placement quaternionOfYaw pose.planar)) (some pose) where
  map := by
    rw [place_of_ne hframes.robot_ne_map.symm]
    exact h.map
  parent f hf e he := by
    rw [place_of_ne (hframes.robot_ne_parent hf).symm] at he
    exact h.parent f hf e he
  robot := by
    refine ⟨frame, hframe, place_self .., fun hfixed => ?_⟩
    rw [place_of_ne (hframes.robot_ne_parent hframe).symm]
    exact hmap hfixed
  laser e he := by
    rw [place_of_ne hframes.laser_ne_robot] at he
    exact h.laser e he
  others f hf hrobot hlaser := by
    rw [place_of_ne hrobot]
    exact h.others f hf hrobot hlaser

theorem Shape.laserAt (hframes : params.Distinct) (h : Shape quaternionOfYaw params tf shown)
    (m : Motion K) :
    Shape quaternionOfYaw params
      (tf.place params.laser.laserFrame params.laser.mapFrame m) shown where
  map := by
    rw [place_of_ne hframes.laser_ne_map.symm]
    exact h.map
  parent f hf e he := by
    rw [place_of_ne (hframes.laser_ne_parent hf).symm] at he
    exact h.parent f hf e he
  robot := by
    have hrobot := h.robot
    rw [place_of_ne hframes.laser_ne_robot.symm]
    cases shown with
    | none => exact hrobot
    | some pose =>
        obtain ⟨f, hf, hedge, hmap⟩ := hrobot
        refine ⟨f, hf, hedge, fun hfixed => ?_⟩
        rw [place_of_ne (hframes.laser_ne_parent hf).symm]
        exact hmap hfixed
  laser e he := by
    rw [place_self] at he
    exact congrArg Prod.fst (Option.some.inj he).symm
  others f hf hrobot hlaser := by
    rw [place_of_ne hlaser]
    exact h.others f hf hrobot hlaser

/-! ## Where the robot is -/

/-- A frame below the map: through either parent the robot is where it is shown. -/
theorem Shape.located_robot_iff (hframes : params.Distinct)
    (h : Shape quaternionOfYaw params tf shown) (hfixed : params.fixedOdomMapTf = true)
    (x : Motion K) :
    Located tf params.laser.mapFrame params.robotFrame x ↔
      ∃ pose, shown = some pose ∧ x = placement quaternionOfYaw pose.planar := by
  have hrobot := h.robot
  cases shown with
  | none =>
      refine ⟨fun hx => absurd hx (not_located_of_no_parent hframes.robot_ne_map hrobot), ?_⟩
      rintro ⟨pose, hpose, -⟩
      cases hpose
  | some pose =>
      obtain ⟨frame, hframe, hedge, hmap⟩ := hrobot
      rw [located_iff_of_edge hframes.robot_ne_map hedge]
      simp only [located_iff_of_child (hframes.parent_ne_map hframe) (hmap hfixed), exists_eq_left,
        one_mul, Option.some.injEq, exists_eq_left']

/-! ## Without the fixed transforms -/

theorem Shape.orphan (h : Shape quaternionOfYaw params tf shown)
    (hfixed : params.fixedOdomMapTf = false) (hframe : params.IsParent frame) :
    tf frame = none := by
  rw [Option.eq_none_iff_forall_ne_some]
  intro e he
  exact Bool.false_ne_true (hfixed.symm.trans (h.parent frame hframe e he).1)

/-- The robot has one of its two parents, and is unknown in the other one. -/
theorem Shape.located_in_parent {pose : Pose K} (hframes : params.Distinct)
    (h : Shape quaternionOfYaw params tf (some pose)) (hfixed : params.fixedOdomMapTf = false) :
    ∃ frame, params.IsParent frame ∧ ∀ a, a = params.laser.mapFrame ∨ params.IsParent a → ∀ x,
      Located tf a params.robotFrame x ↔
        a = frame ∧ x = placement quaternionOfYaw pose.planar := by
  obtain ⟨frame, hframe, hedge, -⟩ := h.robot
  refine ⟨frame, hframe, fun a ha x => ?_⟩
  have hrobot : params.robotFrame ≠ a := by
    rcases ha with rfl | ha
    · exact hframes.robot_ne_map
    · exact hframes.robot_ne_parent ha
  by_cases haf : a = frame
  · subst haf
    rw [located_iff_of_child hrobot hedge]
    exact (and_iff_right rfl).symm
  · rw [located_iff_of_edge hrobot hedge]
    constructor
    · rintro ⟨t, ht, -⟩
      exact absurd ht (not_located_of_no_parent (Ne.symm haf) (h.orphan hfixed hframe))
    · rintro ⟨rfl, -⟩
      exact absurd rfl haf

/-- Only the laser is below the map. -/
theorem Shape.located_below_map (hframes : params.Distinct)
    (h : Shape quaternionOfYaw params tf shown) (hfixed : params.fixedOdomMapTf = false)
    {f : String} {x : Motion K} (hx : Located tf params.laser.mapFrame f x) :
    f = params.laser.mapFrame ∨ f = params.laser.laserFrame := by
  by_contra hother
  rw [not_or] at hother
  by_cases hparent : params.IsParent f
  · exact not_located_of_no_parent hother.1 (h.orphan hfixed hparent) hx
  · by_cases hrobot : f = params.robotFrame
    · subst hrobot
      cases shown with
      | none => exact not_located_of_no_parent hother.1 h.robot hx
      | some pose =>
          obtain ⟨frame, hframe, hall⟩ := h.located_in_parent hframes hfixed
          have hmap := ((hall _ (Or.inl rfl) x).mp hx).1
          exact hframes.parent_ne_map hframe hmap.symm
    · exact not_located_of_no_parent hother.1 (h.others f hparent hrobot hother.2) hx

end Shape

end Ros2WsDemo.Transforms

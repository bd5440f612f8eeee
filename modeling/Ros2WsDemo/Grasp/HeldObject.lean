import Ros2WsDemo.Grasp.Arm
import Ros2WsDemo.Lib.ExactFloat
import Ros2WsDemo.Lib.ExceptState

/-!
# A held object and an open gripper

`object_state` says `held` while the last command to the gripper was to open it
fully: which calls lead there, and which do not.  A call is judged by the state it
is made in, the pose configuration and the answers of the robot.
-/

namespace Ros2WsDemo.MobileManipulator

open Python ExceptState

section Model

variable {F : Type}

/-! ## The gripper -/

def Command.gripperPosition : Command F → Option ℤ
  | .gripper position => some position
  | _ => none

/-- The last of these commands that is one to the gripper. -/
def lastPosition (commands : List (Command F)) : Option ℤ :=
  (commands.filterMap Command.gripperPosition).getLast?

def Arm.lastGripper (s : Arm F) : Option ℤ := lastPosition s.commands

def HeldNotOpen (s : Arm F) : Prop := s.objectState = .held → s.lastGripper ≠ some 1000

@[simp] theorem lastPosition_moveJ (cs : List (Command F)) (joints : Pose6 F) :
    lastPosition (cs ++ [.moveJ joints]) = lastPosition cs := by
  simp [lastPosition, Command.gripperPosition]

@[simp] theorem lastPosition_moveJPose (cs : List (Command F)) (pose : Pose6 F) :
    lastPosition (cs ++ [.moveJPose pose]) = lastPosition cs := by
  simp [lastPosition, Command.gripperPosition]

@[simp] theorem lastPosition_gripper (cs : List (Command F)) (position : ℤ) :
    lastPosition (cs ++ [.gripper position]) = some position := by
  simp [lastPosition, Command.gripperPosition]

theorem lastPosition_motion (cs : List (Command F)) (entry : PoseEntry F) :
    lastPosition (cs ++ [motion entry]) = lastPosition cs := by
  unfold motion
  cases entry.type with
  | joint => exact lastPosition_moveJ cs _
  | pose => exact lastPosition_moveJPose cs _

theorem heldNotOpen_of_opened {s : Arm F} (h : lastPosition s.commands = some 1000) :
    HeldNotOpen s ↔ s.objectState ≠ .held := by
  simp [HeldNotOpen, Arm.lastGripper, h]

section Run

variable {α : Type}

theorem run_direct_ok {out : Outcomes F} {i : ℕ} {c : Command F} {s s' : Arm F} {u : Unit}
    (h : (direct out i c).run.run s = (.ok u, s')) :
    s' = { s with commands := s.commands ++ [c] } := by
  obtain ⟨_, s₁, hsend, h⟩ := returned_bind h
  obtain ⟨-, rfl⟩ := returned_ofExcept h
  exact returned_modify hsend

/-- A direct command of a completed call was carried out. -/
theorem run_direct_bind {out : Outcomes F} {i : ℕ} {c : Command F} {m : ArmM F α} {a : α}
    {s s' : Arm F} (h : (direct out i c >>= fun _ => m : ArmM F α).run.run s = (.ok a, s')) :
    m.run.run { s with commands := s.commands ++ [c] } = (.ok a, s') := by
  obtain ⟨_, s₁, hdirect, h⟩ := returned_bind h
  rwa [run_direct_ok hdirect] at h

theorem run_commandGripperIfUnset {out : Outcomes F} {i : ℕ} {entry : PoseEntry F} {n : ℤ}
    {s s' : Arm F} {u : Unit}
    (h : (commandGripperIfUnset out i entry n).run.run s = (.ok u, s')) :
    s'.lastGripper = (if entry.gripper.isNone then some n else s.lastGripper) ∧
      s'.objectState = s.objectState := by
  unfold commandGripperIfUnset at h
  split_ifs at h ⊢
  · have hafter := run_direct_ok h
    subst hafter
    exact ⟨lastPosition_gripper _ n, rfl⟩
  · obtain ⟨-, rfl⟩ := returned_pure h
    exact ⟨rfl, rfl⟩

end Run

/-! ## Stored moves -/

section Moves

variable [Builtins F]

def ConfigMove.key : ConfigMove → Str × Option Str
  | .storeApproach | .storeApproachAgain => ("put_in_pocket", some "approach")
  | .storeDrop => ("put_in_pocket", some "drop")
  | .storeRetreat => ("put_in_pocket", some "retreat")
  | .retrieveApproach => ("out_of_pocket", some "approach")
  | .retrieveGrasp => ("out_of_pocket", some "grasp")
  | .retrieveRetreat => ("out_of_pocket", some "retreat")
  | .tableReady => ("table_ready_pose", none)

/-- The entry a stored move uses, if the configuration has one. -/
def storedEntry (poseConfig : PoseConfig F) (move : ConfigMove) : Option (PoseEntry F) :=
  match fetchPoseEntry poseConfig move.key.1 move.key.2 with
  | .ok entry => entry
  | .error _ => none

/-- What the gripper is told after the motion of an entry. -/
def PoseEntry.position (entry : PoseEntry F) : Option ℤ :=
  entry.gripper.bind fun x => (Builtins.toInt x).toOption

/-- The move of an entry goes through. -/
def PoseEntry.Executes (entry : PoseEntry F) (o : MoveOutcome) : Prop :=
  o = .succeeds ∧ (entry.gripper.isSome → entry.position.isSome) ∨
    o = .gripperRaises ∧ entry.gripper = none

instance (entry : PoseEntry F) (o : MoveOutcome) : Decidable (entry.Executes o) :=
  inferInstanceAs (Decidable (_ ∨ _))

/-- The entry of a stored move that goes through. -/
def executed (poseConfig : PoseConfig F) (out : Outcomes F) (move : ConfigMove) :
    Option (PoseEntry F) :=
  (storedEntry poseConfig move).filter fun entry => entry.Executes (out.move move)

/-- The last gripper command after a stored move, given the last one before it. -/
def gripperAfter (poseConfig : PoseConfig F) (out : Outcomes F) (move : ConfigMove)
    (before : Option ℤ) : Option ℤ :=
  match storedEntry poseConfig move with
  | some entry => if out.move move = .motionRaises then before else entry.position.or before
  | none => before

theorem run_movePoseFromConfig {poseConfig : PoseConfig F} {out : Outcomes F} (move : ConfigMove)
    {s s' : Arm F} {r : Option (PoseEntry F)}
    (h : (movePoseFromConfig poseConfig out move move.key.1 move.key.2).run.run s = (.ok r, s')) :
    r = executed poseConfig out move ∧
      s'.lastGripper = gripperAfter poseConfig out move s.lastGripper ∧
      s'.objectState = s.objectState := by
  obtain ⟨entry, s₁, hentry, h⟩ := returned_bind h
  obtain ⟨hfetch, rfl⟩ := returned_ofExcept hentry
  have hstored : storedEntry poseConfig move = entry := by
    unfold storedEntry
    rw [hfetch]
  unfold executed gripperAfter
  rw [hstored]
  cases entry with
  | none =>
      obtain ⟨rfl, rfl⟩ := returned_pure h
      exact ⟨rfl, rfl, rfl⟩
  | some entry =>
      obtain ⟨_, s₂, hsend, h⟩ := returned_bind h
      have hafter := returned_modify hsend
      subst hafter
      have hlast : lastPosition (s₁.commands ++ [motion entry]) = s₁.lastGripper :=
        lastPosition_motion _ entry
      rw [show (some entry).filter (fun entry => entry.Executes (out.move move)) =
        if entry.Executes (out.move move) then some entry else none by simp [Option.filter]]
      by_cases hmotion : out.move move = .motionRaises
      · simp only [hmotion, if_true] at h ⊢
        obtain ⟨rfl, rfl⟩ := returned_pure h
        exact ⟨by simp [PoseEntry.Executes], hlast, rfl⟩
      · simp only [hmotion, if_false] at h ⊢
        rw [← hlast]
        cases hg : entry.gripper with
        | none =>
            simp only [hg] at h
            obtain ⟨rfl, rfl⟩ := returned_pure h
            refine ⟨?_, by simp [PoseEntry.position, hg, Arm.lastGripper], rfl⟩
            cases ho : out.move move <;> simp_all [PoseEntry.Executes]
        | some x =>
            cases hi : Builtins.toInt x with
            | error e =>
                simp only [hg, hi] at h
                obtain ⟨rfl, rfl⟩ := returned_pure h
                have hposition : entry.position = none := by
                  simp [PoseEntry.position, hg, hi, Except.toOption]
                exact ⟨by simp [PoseEntry.Executes, hg, hposition], by rw [hposition]; rfl, rfl⟩
            | ok n =>
                simp only [hg, hi] at h
                have hposition : entry.position = some n := by
                  simp [PoseEntry.position, hg, hi, Except.toOption]
                obtain ⟨_, s₃, hsend, h⟩ := returned_bind h
                have hafter := returned_modify hsend
                subst hafter
                rw [hposition]
                by_cases hraises : out.move move = .gripperRaises
                · simp only [hraises, if_true] at h ⊢
                  obtain ⟨rfl, rfl⟩ := returned_pure h
                  exact ⟨by simp [PoseEntry.Executes, hg], lastPosition_gripper _ n, rfl⟩
                · simp only [hraises, if_false] at h
                  obtain ⟨rfl, rfl⟩ := returned_pure h
                  refine ⟨?_, lastPosition_gripper _ n, rfl⟩
                  cases ho : out.move move <;> simp_all [PoseEntry.Executes]

/-! ## Calls -/

/-- Storing ends with the object stowed, or it breaks off with the gripper not told
to open fully. -/
def StoreOk (poseConfig : PoseConfig F) (out : Outcomes F) (before : Option ℤ) : Prop :=
  let approached := gripperAfter poseConfig out .storeApproach before
  match executed poseConfig out .storeApproach, executed poseConfig out .storeDrop with
  | some _, some _ => True
  | some _, none =>
      gripperAfter poseConfig out .storeDrop
        (gripperAfter poseConfig out .storeApproachAgain approached) ≠ some 1000
  | none, _ => approached ≠ some 1000

/-- Retrieving breaks off with nothing held, or its last gripper command is not to
open fully. -/
def RetrieveOk (poseConfig : PoseConfig F) (out : Outcomes F) (objectState : ObjectState)
    (before : Option ℤ) : Prop :=
  let approached := gripperAfter poseConfig out .retrieveApproach before
  match executed poseConfig out .retrieveApproach with
  | none => objectState = .held → approached ≠ some 1000
  | some approachEntry =>
      let grasped := gripperAfter poseConfig out .retrieveGrasp
        (if approachEntry.gripper.isNone then some 1000 else approached)
      match executed poseConfig out .retrieveGrasp with
      | none => objectState = .held → grasped ≠ some 1000
      | some graspEntry =>
          gripperAfter poseConfig out .tableReady
            (gripperAfter poseConfig out .retrieveRetreat
              (if graspEntry.gripper.isNone then some 0 else grasped)) ≠ some 1000

/-- The condition on a call: the state before it, the configuration and the answers. -/
def CallOk (poseConfig : PoseConfig F) (s : Arm F) (out : Outcomes F) : Call F → Prop
  | .graspObj _ _ _ => s.objPose.isSome ∨ s.objectState ≠ .held
  | .resetGraspPose _ _ _ => s.objectState ≠ .held
  | .placeAtFixedHeight _ => True
  | .storeObjectInPocket => StoreOk poseConfig out s.lastGripper
  | .retrieveObjectFromPocket => RetrieveOk poseConfig out s.objectState s.lastGripper
  | .pressButton _ _ _ => s.objectState ≠ .held
  | .pressButtonUp _ _ _ => s.objectState ≠ .held

end Moves

section Calls

variable [Arithmetic F] {poseConfig : PoseConfig F} {out : Outcomes F} {s s' : Arm F} {u : Unit}

theorem graspObj_iff {xBias yBias zBias : F}
    (h : (graspObj out xBias yBias zBias).run.run s = (.ok u, s')) :
    HeldNotOpen s' ↔ s.objPose.isSome ∨ s.objectState ≠ .held := by
  simp only [graspObj, ArmCalls.graspObj, armCalls] at h
  have h := run_direct_bind (run_direct_bind h)
  rw [run_read_bind] at h
  cases hobj : s.objPose with
  | none =>
      simp only [hobj] at h
      obtain ⟨-, rfl⟩ := returned_pure h
      rw [heldNotOpen_of_opened (lastPosition_gripper _ _)]
      simp
  | some t =>
      simp only [hobj] at h
      rw [run_modify_bind] at h
      have h := run_direct_bind (run_direct_bind (run_direct_bind (run_direct_bind h)))
      have hafter := returned_modify h
      subst hafter
      simp only [HeldNotOpen, Arm.lastGripper, lastPosition_moveJ, lastPosition_gripper]
      simp

theorem resetGraspPose_iff {xBias yBias zBias : F}
    (h : (resetGraspPose out xBias yBias zBias).run.run s = (.ok u, s')) :
    HeldNotOpen s' ↔ s.objectState ≠ .held := by
  have h := run_direct_bind (run_direct_bind h)
  rw [run_get_bind] at h
  cases hobj : s.objPose with
  | none =>
      simp only [hobj] at h
      obtain ⟨-, rfl⟩ := returned_pure h
      exact heldNotOpen_of_opened (lastPosition_gripper _ _)
  | some t =>
      simp only [hobj] at h
      have hafter := returned_modify h
      subst hafter
      exact heldNotOpen_of_opened (lastPosition_gripper _ _)

theorem pressButtonUp_iff {xBias yBias zBias : F}
    (h : (pressButtonUp out xBias yBias zBias).run.run s = (.ok u, s')) :
    HeldNotOpen s' ↔ s.objectState ≠ .held := by
  have h := run_direct_bind h
  rw [run_get_bind] at h
  cases hbutton : s.buttonPose with
  | none =>
      simp only [hbutton] at h
      obtain ⟨-, rfl⟩ := returned_pure h
      exact heldNotOpen_of_opened (lastPosition_gripper _ _)
  | some t =>
      simp only [hbutton] at h
      have hafter := run_direct_ok h
      subst hafter
      exact heldNotOpen_of_opened (by simp only [lastPosition_moveJPose, lastPosition_gripper])

theorem pressButton_iff {xBias yBias zBias : F}
    (h : (pressButton out xBias yBias zBias).run.run s = (.ok u, s')) :
    HeldNotOpen s' ↔ s.objectState ≠ .held := by
  have h := run_direct_bind h
  rw [run_get_bind] at h
  cases hbutton : s.buttonPose with
  | none =>
      simp only [hbutton] at h
      obtain ⟨-, rfl⟩ := returned_pure h
      exact heldNotOpen_of_opened (lastPosition_gripper _ _)
  | some t =>
      simp only [hbutton] at h
      rw [run_get_bind] at h
      cases hcard : s.cardPose with
      | none =>
          simp only [hcard] at h
          obtain ⟨-, rfl⟩ := returned_pure h
          exact heldNotOpen_of_opened (lastPosition_gripper _ _)
      | some c =>
          simp only [hcard] at h
          have hafter := run_direct_ok (run_direct_bind (run_direct_bind h))
          subst hafter
          exact heldNotOpen_of_opened (by simp only [lastPosition_moveJPose, lastPosition_gripper])

theorem placeAtFixedHeight_keeps {height : F} {r : Option Bool} (hs : HeldNotOpen s)
    (h : (placeAtFixedHeight out height).run.run s = (.ok r, s')) : HeldNotOpen s' := by
  simp only [placeAtFixedHeight, ArmCalls.placeAtFixedHeight, armCalls] at h
  rw [run_read_bind] at h
  cases hoperate : s.operatePose with
  | none =>
      simp only [hoperate] at h
      obtain ⟨-, rfl⟩ := returned_pure h
      exact hs
  | some p =>
      simp only [hoperate] at h
      have h := run_direct_bind (run_direct_bind h)
      rw [run_modify_bind] at h
      obtain ⟨-, rfl⟩ := returned_pure (run_direct_bind (run_direct_bind h))
      exact nofun

theorem storeObjectInPocket_iff
    (h : (storeObjectInPocket poseConfig out).run.run s = (.ok u, s')) :
    HeldNotOpen s' ↔ StoreOk poseConfig out s.lastGripper := by
  rw [storeObjectInPocket, run_modify_bind] at h
  obtain ⟨approach, s₁, happroach, h⟩ := returned_bind h
  obtain ⟨rfl, hlast₁, hstate₁⟩ := run_movePoseFromConfig .storeApproach happroach
  unfold StoreOk
  cases ha : executed poseConfig out .storeApproach with
  | none =>
      simp only [ha] at h
      obtain ⟨-, rfl⟩ := returned_pure h
      rw [HeldNotOpen, hlast₁, hstate₁]
      simp [Arm.lastGripper]
  | some approachEntry =>
      simp only [ha] at h
      obtain ⟨_, s₂, hagain, h⟩ := returned_bind h
      obtain ⟨-, hlast₂, hstate₂⟩ := run_movePoseFromConfig .storeApproachAgain hagain
      obtain ⟨drop, s₃, hdrop, h⟩ := returned_bind h
      obtain ⟨rfl, hlast₃, hstate₃⟩ := run_movePoseFromConfig .storeDrop hdrop
      cases hd : executed poseConfig out .storeDrop with
      | none =>
          simp only [hd] at h
          obtain ⟨-, rfl⟩ := returned_pure h
          rw [HeldNotOpen, hlast₃, hstate₃, hlast₂, hstate₂, hlast₁, hstate₁]
          simp [Arm.lastGripper]
      | some dropEntry =>
          simp only [hd] at h
          obtain ⟨_, s₄, -, h⟩ := returned_bind h
          obtain ⟨_, s₅, -, h⟩ := returned_bind h
          rw [run_modify_bind] at h
          have hafter := returned_modify h
          subst hafter
          simp [HeldNotOpen]

theorem run_goToTableReadyPose {b : Bool}
    (h : (goToTableReadyPose poseConfig out).run.run s = (.ok b, s')) :
    s'.lastGripper = gripperAfter poseConfig out .tableReady s.lastGripper ∧
      s'.objectState = s.objectState := by
  obtain ⟨entry, s₁, hmove, h⟩ := returned_bind h
  obtain ⟨-, hlast, hstate⟩ := run_movePoseFromConfig .tableReady hmove
  rw [← hlast, ← hstate]
  cases entry with
  | none =>
      obtain ⟨_, s₂, hsend, h⟩ := returned_bind h
      have hafter := returned_modify hsend
      subst hafter
      have hstep : lastPosition (s₁.commands ++ [.moveJ holdJoint]) = s₁.lastGripper :=
        lastPosition_moveJ _ _
      split at h
      all_goals
        rw [run_modify_bind] at h
        obtain ⟨-, rfl⟩ := returned_pure h
        exact ⟨hstep, rfl⟩
  | some entry =>
      dsimp only at h
      split_ifs at h
      · rw [run_modify_bind] at h
        obtain ⟨-, rfl⟩ := returned_pure h
        exact ⟨rfl, rfl⟩
      · split at h
        all_goals
          rw [run_modify_bind] at h
          obtain ⟨-, rfl⟩ := returned_pure h
          exact ⟨rfl, rfl⟩

theorem retrieveObjectFromPocket_iff
    (h : (retrieveObjectFromPocket poseConfig out).run.run s = (.ok u, s')) :
    HeldNotOpen s' ↔ RetrieveOk poseConfig out s.objectState s.lastGripper := by
  obtain ⟨approach, s₁, happroach, h⟩ := returned_bind h
  obtain ⟨rfl, hlast₁, hstate₁⟩ := run_movePoseFromConfig .retrieveApproach happroach
  unfold RetrieveOk
  cases ha : executed poseConfig out .retrieveApproach with
  | none =>
      simp only [ha] at h
      obtain ⟨-, rfl⟩ := returned_pure h
      rw [HeldNotOpen, hlast₁, hstate₁]
  | some approachEntry =>
      simp only [ha] at h
      obtain ⟨_, s₂, hopen, h⟩ := returned_bind h
      obtain ⟨hlast₂, hstate₂⟩ := run_commandGripperIfUnset hopen
      obtain ⟨grasp, s₃, hgrasp, h⟩ := returned_bind h
      obtain ⟨rfl, hlast₃, hstate₃⟩ := run_movePoseFromConfig .retrieveGrasp hgrasp
      rw [hlast₂, hlast₁] at hlast₃
      cases hg : executed poseConfig out .retrieveGrasp with
      | none =>
          simp only [hg] at h
          obtain ⟨-, rfl⟩ := returned_pure h
          rw [HeldNotOpen, hlast₃, hstate₃, hstate₂, hstate₁]
      | some graspEntry =>
          simp only [hg] at h
          obtain ⟨_, s₄, hclose, h⟩ := returned_bind h
          obtain ⟨hlast₄, hstate₄⟩ := run_commandGripperIfUnset hclose
          obtain ⟨_, s₅, hretreat, h⟩ := returned_bind h
          obtain ⟨-, hlast₅, -⟩ := run_movePoseFromConfig .retrieveRetreat hretreat
          rw [run_modify_bind] at h
          obtain ⟨_, s₆, hready, h⟩ := returned_bind h
          obtain ⟨-, rfl⟩ := returned_pure h
          obtain ⟨hlast₆, hstate₆⟩ := run_goToTableReadyPose hready
          have hlast : s'.lastGripper = gripperAfter poseConfig out .tableReady s₅.lastGripper :=
            hlast₆
          rw [HeldNotOpen, hlast, hstate₆, hlast₅, hlast₄, hlast₃]
          exact ⟨fun h => h rfl, fun h _ => h⟩

/-- What a completed call does to the relation. -/
theorem perform_iff {c : Call F} (hs : HeldNotOpen s)
    (h : (perform poseConfig out c).run.run s = (.ok u, s')) :
    HeldNotOpen s' ↔ CallOk poseConfig s out c := by
  cases c with
  | graspObj xBias yBias zBias => exact graspObj_iff h
  | resetGraspPose xBias yBias zBias => exact resetGraspPose_iff h
  | placeAtFixedHeight height =>
      obtain ⟨_, s₁, hplace, h⟩ := returned_bind h
      obtain ⟨-, rfl⟩ := returned_pure h
      exact ⟨fun _ => trivial, fun _ => placeAtFixedHeight_keeps hs hplace⟩
  | storeObjectInPocket => exact storeObjectInPocket_iff h
  | retrieveObjectFromPocket => exact retrieveObjectFromPocket_iff h
  | pressButton xBias yBias zBias => exact pressButton_iff h
  | pressButtonUp xBias yBias zBias => exact pressButtonUp_iff h

/-! ## Every run -/

theorem Run.mem_states {calls : List (Arm F × Call F × Outcomes F)} {states : List (Arm F)}
    (h : Run poseConfig calls states s) : s ∈ states := by
  cases h <;> exact List.mem_cons_self

/-- In a run the relation holds of all states exactly if all calls meet the
condition. -/
theorem heldNotOpen_iff {calls : List (Arm F × Call F × Outcomes F)} {states : List (Arm F)}
    (h : Run poseConfig calls states s) :
    (∀ t ∈ states, HeldNotOpen t) ↔ ∀ x ∈ calls, CallOk poseConfig x.1 x.2.2 x.2.1 := by
  induction h with
  | init =>
      have hinit : HeldNotOpen (Arm.init : Arm F) := nofun
      simpa using hinit
  | detect h objPose buttonPose cardPose ih =>
      rw [List.forall_mem_cons, ← ih]
      refine ⟨fun hall => hall.2, fun hall => ⟨?_, hall⟩⟩
      have hlast := hall _ h.mem_states
      exact hlast
  | call h c out hrun ih =>
      rw [List.forall_mem_cons, List.forall_mem_cons, ← ih]
      constructor
      · rintro ⟨hlast, hall⟩
        exact ⟨(perform_iff (hall _ h.mem_states) hrun).mp hlast, hall⟩
      · rintro ⟨hok, hall⟩
        exact ⟨(perform_iff (hall _ h.mem_states) hrun).mpr hok, hall⟩

end Calls

end Model

/-! ## Storing and retrieving -/

/-- Every command succeeds. -/
def allSucceed : Outcomes Exact where
  direct _ := .ok ()
  move _ := .succeeds
  holdJoint := .ok ()
  rtMatrix := .ok ⟨.rat 0, .rat 0, .rat 0, .rat 0, .rat 0, .rat 0⟩

/-- The state after a call with the default configuration. -/
def afterCall (c : Call Exact) (s : Arm Exact) : Arm Exact :=
  ((perform defaultConfig allSucceed c).run.run s).2

def stored : Arm Exact := afterCall .storeObjectInPocket Arm.init

def retrieved : Arm Exact := afterCall .retrieveObjectFromPocket stored

theorem completed_of_isOk {c : Call Exact} {s : Arm Exact}
    (h : ((perform defaultConfig allSucceed c).run.run s).1.isOk = true) :
    (perform defaultConfig allSucceed c).run.run s = (.ok (), afterCall c s) := by
  unfold afterCall
  rcases hrun : (perform defaultConfig allSucceed c).run.run s with ⟨e | u, s'⟩
  · rw [hrun] at h
    cases h
  · rfl

theorem run_stored : Run defaultConfig [(Arm.init, .storeObjectInPocket, allSucceed)]
    [stored, Arm.init] stored :=
  .call .init _ _ (completed_of_isOk (by decide +kernel))

theorem run_retrieved : Run defaultConfig
    [(stored, .retrieveObjectFromPocket, allSucceed), (Arm.init, .storeObjectInPocket, allSucceed)]
    [retrieved, stored, Arm.init] retrieved :=
  .call run_stored _ _ (completed_of_isOk (by decide +kernel))

theorem retrieved_held : retrieved.objectState = .held := by decide +kernel

theorem retrieved_open : retrieved.lastGripper = some 1000 := by decide +kernel

/-- With the default configuration the object is held by an open gripper as soon as
it has been taken out of the pocket. -/
theorem held_by_open_gripper : ¬ ∀ (poseConfig : PoseConfig Exact)
    (calls : List (Arm Exact × Call Exact × Outcomes Exact)) (states : List (Arm Exact))
    (s : Arm Exact), Run poseConfig calls states s → ∀ t ∈ states, HeldNotOpen t := by
  intro h
  have hretrieved : HeldNotOpen retrieved :=
    h _ _ _ _ run_retrieved retrieved List.mem_cons_self
  unfold HeldNotOpen at hretrieved
  exact hretrieved retrieved_held retrieved_open

def detected : Arm Exact := { Arm.init with objPose := some ⟨.rat 1, .rat 0, .rat 0⟩ }

def graspDetected : Call Exact := .graspObj (.rat 26) (.rat (-19)) (.rat 10)

theorem run_grasped : Run defaultConfig [(detected, graspDetected, allSucceed)]
    [afterCall graspDetected detected, detected, Arm.init] (afterCall graspDetected detected) := by
  have hdetected : Run defaultConfig [] [detected, Arm.init] detected :=
    .detect .init detected.objPose none none
  exact .call hdetected graspDetected allSucceed (completed_of_isOk (by decide +kernel))

/-- Grasping a detected object closes the gripper. -/
theorem heldNotOpen_grasped :
    HeldNotOpen detected ∧ HeldNotOpen (afterCall graspDetected detected) := by
  have hall := (heldNotOpen_iff run_grasped).mpr fun x hx => by
    have heq := List.mem_singleton.mp hx
    subst heq
    exact Or.inl rfl
  exact ⟨hall _ (by simp), hall _ (by simp)⟩

end Ros2WsDemo.MobileManipulator

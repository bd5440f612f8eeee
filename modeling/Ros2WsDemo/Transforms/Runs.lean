import Ros2WsDemo.Lib.ExceptState
import Ros2WsDemo.Transforms.Shape

/-!
# Where the broadcasts show the robot

Every operation of the workers keeps the shape of the tree.  In every run the robot is where
the platform last said it is, whichever worker asked, and every message is published in a
frame that has just been broadcast.
-/

namespace Ros2WsDemo.Transforms

open Effect FrameTree

variable {K : Type} [Field K]

/-! ## Assertions -/

section Assertions

variable (quaternionOfYaw : K → Quaternion K) (params : Params)
  (rotation : MsgConvert (QuaternionMsg K) (Rotation K))

/-- The latest pose has been broadcast. -/
def Synced (_ : Members K) (tr : List (WorkerEvent K)) : Prop :=
  Shape quaternionOfYaw params (lastBroadcasts tr) (poses tr).getLast?

/-- The latest pose has been broadcast, or the one before it. -/
def Following (tr : List (WorkerEvent K)) : Prop :=
  Shape quaternionOfYaw params (lastBroadcasts tr) (poses tr).getLast? ∨
    Shape quaternionOfYaw params (lastBroadcasts tr) (poses tr).dropLast.getLast?

/-- The parent frame is at the map, if it is to be fixed there. -/
def Fixed (frame : String) (tr : List (WorkerEvent K)) : Prop :=
  params.fixedOdomMapTf = true → lastBroadcasts tr frame = some (params.laser.mapFrame, 1)

/-- The robot is in the frame at the latest pose. -/
def RobotIn (frame : String) (pose : Pose K) (tr : List (WorkerEvent K)) : Prop :=
  (poses tr).getLast? = some pose ∧ Fixed params frame tr ∧
    lastBroadcasts tr params.robotFrame = some (frame, placement quaternionOfYaw pose.planar)

/-- The odometry message gets the accumulated odometry, and nothing is broadcast. -/
def Accumulates (m : Members K) : Prop :=
  params.pubAccumulateOdometry = true ∧ m.isOdoPoseFeatureSupported = true

/-- What is known of a message when it is published. -/
def MayPublish (s : Members K) (tr : List (WorkerEvent K)) : Op K → Prop
  | .publishOdometry msg => msg.frameId = params.odomFrame ∧
      (¬Accumulates params s → ∃ pose, msg.pose = poseMsg rotation pose ∧
        RobotIn quaternionOfYaw params params.odomFrame pose tr)
  | .publishRobotPose msg => msg.frameId = params.robotPoseFrame ∧
      ∃ pose, msg.pose = poseMsg rotation pose ∧ s.robotPose = pose ∧
        RobotIn quaternionOfYaw params params.robotPoseFrame pose tr
  | .publishLaserScan msg => msg.frameId = params.laser.laserFrame ∧
      ∃ tLs, (scans tr).getLast? = some tLs ∧
        lastBroadcasts tr params.laser.laserFrame = some (params.laser.mapFrame,
          placement quaternionOfYaw (tLs.laserPointsPose.getD s.robotPose.planar))
  | _ => True

def Guard (s : Members K) (tr : List (WorkerEvent K)) (o : Op K) : Prop :=
  Following quaternionOfYaw params tr ∧ MayPublish quaternionOfYaw params rotation s tr o

end Assertions

variable {quaternionOfYaw : K → Quaternion K} {params : Params}
  {rotation : MsgConvert (QuaternionMsg K) (Rotation K)} {s s' m : Members K}
  {tr : List (WorkerEvent K)} {frame : String} {pose : Pose K} {α : Type}
  {Q : α → Members K → List (WorkerEvent K) → Prop}
  {E : Exn → Members K → List (WorkerEvent K) → Prop}

theorem Synced.quiet (h : Synced quaternionOfYaw params s tr) (s' : Members K)
    (e : WorkerEvent K) (hpose : poseOf e = none) (hsent : sentOf e = none) :
    Synced quaternionOfYaw params s' (tr ++ [e]) := by
  rw [Synced, poses_quiet hpose, lastBroadcasts_quiet hsent]
  exact h

theorem RobotIn.quiet (h : RobotIn quaternionOfYaw params frame pose tr) (e : WorkerEvent K)
    (hpose : poseOf e = none) (hsent : sentOf e = none) :
    RobotIn quaternionOfYaw params frame pose (tr ++ [e]) := by
  rw [RobotIn, poses_quiet hpose, Fixed, lastBroadcasts_quiet hsent]
  exact h

theorem Synced.guard (h : Synced quaternionOfYaw params s tr) {o : Op K}
    (ho : MayPublish quaternionOfYaw params rotation s tr o) :
    Guard quaternionOfYaw params rotation s tr o := ⟨Or.inl h, ho⟩

/-! ## The platform -/

/-- Errors of the platform change nothing. -/
theorem wp_ofExcept {r : Except Exn α} (hok : ∀ a, r = .ok a → Q a s tr)
    (herror : ∀ e, r = .error e → E e s tr) :
    wp system (Guard quaternionOfYaw params rotation) Q E
      (ofExcept r : WorkerM K α) s tr := by
  cases r with
  | ok a => exact hok a rfl
  | error e => exact herror e rfl

/-- A pose has been answered that is not broadcast yet. -/
def Fetched (quaternionOfYaw : K → Quaternion K) (params : Params) (frame : String) (pose : Pose K)
    (tr : List (WorkerEvent K)) : Prop :=
  (poses tr).getLast? = some pose ∧
    Shape quaternionOfYaw params (lastBroadcasts tr) (poses tr).dropLast.getLast? ∧
      Fixed params frame tr

theorem Fetched.quiet (h : Fetched quaternionOfYaw params frame pose tr) (e : WorkerEvent K)
    (hpose : poseOf e = none) (hsent : sentOf e = none) :
    Fetched quaternionOfYaw params frame pose (tr ++ [e]) := by
  rw [Fetched, poses_quiet hpose, Fixed, lastBroadcasts_quiet hsent]
  exact h

theorem wp_getPose (h : Synced quaternionOfYaw params s tr) (hfixed : Fixed params frame tr) :
    wp system (Guard quaternionOfYaw params rotation)
      (fun pose s' tr => Fetched quaternionOfYaw params frame pose tr ∧ s' = s)
      (fun _ => Synced quaternionOfYaw params) getPose s tr := by
  refine wp_perform_bind (h.guard trivial) fun r s' hsame => ?_
  obtain rfl := hsame
  refine wp_ofExcept (fun pose hr => ⟨?_, rfl⟩) (fun e hr => ?_)
  · have hposes : poses (tr ++ [.op .getPose r]) = poses tr ++ [pose] := by
      rw [poses_snoc, hr]
      rfl
    rw [Fetched, hposes, List.getLast?_concat, List.dropLast_concat, Fixed,
      lastBroadcasts_quiet rfl]
    exact ⟨rfl, h, hfixed⟩
  · exact h.quiet s' _ (by rw [hr]; rfl) rfl

/-! ## Broadcasts -/

theorem wp_broadcastFixed (hframes : params.Distinct) (hframe : params.IsParent frame)
    (h : Synced quaternionOfYaw params s tr) :
    wp system (Guard quaternionOfYaw params rotation)
      (fun _ s' tr => Synced quaternionOfYaw params s' tr ∧ Fixed params frame tr ∧ s' = s)
      (fun _ => Synced quaternionOfYaw params) (broadcastFixed params frame) s tr := by
  unfold broadcastFixed
  split_ifs with hfixed
  · refine wp_perform_bind (h.guard trivial) fun now s₁ hsame => ?_
    obtain rfl := hsame
    have h₁ := h.quiet s₁ (.op .now now) rfl rfl
    refine wp_perform_last (h₁.guard trivial) fun u s₂ hsame => ?_
    obtain rfl := hsame
    refine ⟨?_, fun _ => ?_, rfl⟩
    · rw [Synced, poses_quiet rfl, lastBroadcasts_sent]
      exact Shape.fixed hframes h₁ hfixed hframe
    · rw [lastBroadcasts_sent]
      exact place_self ..
  · exact ⟨h, fun hyes => absurd hyes hfixed, rfl⟩

theorem wp_broadcastRobot (hframes : params.Distinct) (hframe : params.IsParent frame)
    (h : Fetched quaternionOfYaw params frame pose tr) :
    wp system (Guard quaternionOfYaw params rotation)
      (fun _ s' tr => Synced quaternionOfYaw params s' tr ∧
        RobotIn quaternionOfYaw params frame pose tr ∧ s' = s)
      (fun _ => Synced quaternionOfYaw params)
      (broadcastRobot quaternionOfYaw params frame pose) s tr := by
  refine wp_perform_bind ⟨Or.inr h.2.1, trivial⟩ fun now s₁ hsame => ?_
  obtain rfl := hsame
  have h₁ := h.quiet (.op .now now) rfl rfl
  refine wp_perform_last ⟨Or.inr h₁.2.1, trivial⟩ fun u s₂ hsame => ?_
  obtain rfl := hsame
  obtain ⟨hlast, hshape, hfixed⟩ := h₁
  rw [Synced, RobotIn, Fixed, poses_quiet rfl, lastBroadcasts_sent, hlast]
  refine ⟨hshape.robotAt hframes hframe hfixed pose, ⟨rfl, fun hyes => ?_, place_self ..⟩, rfl⟩
  exact (place_of_ne (hframes.robot_ne_parent hframe).symm).trans (hfixed hyes)

/-! ## Operations that change no transform -/

/-- Operations that neither broadcast nor publish nor ask for the pose. -/
def Silent : Op K → Prop
  | .getPose | .sendTransform _ | .publishOdometry _ | .publishRobotPose _ | .publishLaserScan _ =>
      False
  | _ => True

/-- The questions to the platform among them. -/
def Asking : Op K → Prop
  | .getOdoPose | .getSpeed => True
  | _ => False

theorem Silent.poseOf {o : Op K} (ho : Silent o) (r : Ret o) : poseOf (.op o r) = none := by
  cases o with
  | getPose => exact ho.elim
  | _ => rfl

theorem Silent.sentOf {o : Op K} (ho : Silent o) (r : Ret o) : sentOf (.op o r) = none := by
  cases o with
  | sendTransform t => exact ho.elim
  | _ => rfl

theorem Silent.mayPublish {o : Op K} (ho : Silent o) :
    MayPublish quaternionOfYaw params rotation s tr o := by
  cases o with
  | publishOdometry msg => exact ho.elim
  | publishRobotPose msg => exact ho.elim
  | publishLaserScan msg => exact ho.elim
  | _ => trivial

theorem Asking.silent {o : Op K} (ho : Asking o) : Silent o := by
  cases o <;> first | exact ho.elim | trivial

theorem Asking.state_eq {o : Op K} (ho : Asking o) {r : Ret o} (h : handle s o r s') : s' = s := by
  cases o <;> first | exact ho.elim | exact h

/-- What a program keeps that only performs some of the silent operations. -/
theorem wp_silent {S : Op K → Prop} {P : Members K → List (WorkerEvent K) → Prop}
    {p : WorkerM K α} (hp : p.Uses S) (hS : ∀ o, S o → Silent o) (h : P s tr)
    (hfollowing : ∀ s tr, P s tr → Following quaternionOfYaw params tr)
    (hop : ∀ s s' tr o r, S o → handle s o r s' → P s tr → P s' (tr ++ [.op o r])) :
    wp system (Guard quaternionOfYaw params rotation) (fun _ => P) (fun _ => P) p s tr := by
  refine wp_of_uses hp (stable_of_isEmpty P) h ?_ ?_
  · exact fun s tr o ho hs => ⟨hfollowing s tr hs, (hS o ho).mayPublish⟩
  · exact fun s tr o r s' ho hs hhandle => hop s s' tr o r ho hhandle hs

theorem uses_getOdoPose : (getOdoPose (K := K)).Uses Asking :=
  Prog.Uses.bind (Prog.uses_perform (o := Op.getOdoPose) trivial) Prog.uses_ofExcept

theorem uses_getSpeed : (getSpeed (K := K)).Uses Asking :=
  Prog.Uses.bind (Prog.uses_perform (o := Op.getSpeed) trivial) Prog.uses_ofExcept

theorem uses_updateMembers (f : Members K → Members K) : (updateMembers f).Uses Silent :=
  Prog.Uses.bind (Prog.uses_perform (o := Op.members) trivial) fun _ => Prog.uses_perform trivial

theorem uses_isSupported {call : WorkerM K α} (hcall : call.Uses Asking) :
    (isSupported call).Uses Silent := by
  refine Prog.Uses.tryCatch ((hcall.mono fun _ => Asking.silent).bind fun _ => trivial) fun e => ?_
  split_ifs <;> trivial

theorem uses_reinitOdometry : (reinitOdometry (K := K) params).Uses Silent := by
  have hspeed : ∀ x : Unit, Prog.Uses Silent (do
      let supported ← isSupported (getSpeed (K := K))
      updateMembers fun m => { m with isSpeedFeatureSupported := supported }) := fun _ =>
    (uses_isSupported uses_getSpeed).bind fun _ => uses_updateMembers _
  unfold reinitOdometry
  split_ifs
  · exact (uses_isSupported uses_getOdoPose).bind fun _ => (uses_updateMembers _).bind hspeed
  · exact hspeed ()

theorem uses_takeRobotSpeed (m : Members K) : (takeRobotSpeed m).Uses Asking := by
  unfold takeRobotSpeed
  split_ifs
  · exact uses_getSpeed
  · trivial

/-! ## The workers -/

theorem wp_reinitOdometry (h : Synced quaternionOfYaw params s tr) :
    wp system (Guard quaternionOfYaw params rotation) (fun _ => Synced quaternionOfYaw params)
      (fun _ => Synced quaternionOfYaw params) (reinitOdometry params) s tr :=
  wp_silent uses_reinitOdometry (fun _ ho => ho) h (fun _ _ => Or.inl)
    fun _ s' _ _ r ho _ hs => hs.quiet s' _ (ho.poseOf r) (ho.sentOf r)

theorem wp_broadcastOdometry (hframes : params.Distinct)
    (h : Synced quaternionOfYaw params s tr) :
    wp system (Guard quaternionOfYaw params rotation)
      (fun pose s' tr => Synced quaternionOfYaw params s' tr ∧
        RobotIn quaternionOfYaw params params.odomFrame pose tr ∧ s' = s)
      (fun _ => Synced quaternionOfYaw params) (broadcastOdometry quaternionOfYaw params) s tr := by
  refine wp_seq (wp_broadcastFixed hframes (Or.inl rfl) h) ?_
  rintro _ s₁ tr₁ ⟨h₁, hfixed, rfl⟩
  refine wp_seq (wp_getPose h₁ hfixed) ?_
  rintro pose s₂ tr₂ ⟨h₂, rfl⟩
  exact wp_seq (wp_broadcastRobot hframes (Or.inl rfl) h₂) fun _ s₃ tr₃ h₃ => h₃

/-- What is known once the odometry worker has its pose. -/
def TookPose (quaternionOfYaw : K → Quaternion K) (params : Params) (m : Members K) (pose : Pose K)
    (s : Members K) (tr : List (WorkerEvent K)) : Prop :=
  Synced quaternionOfYaw params s tr ∧ s = m ∧
    (¬Accumulates params m → RobotIn quaternionOfYaw params params.odomFrame pose tr)

theorem TookPose.quiet (h : TookPose quaternionOfYaw params m pose s tr) (e : WorkerEvent K)
    (hpose : poseOf e = none) (hsent : sentOf e = none) :
    TookPose quaternionOfYaw params m pose s (tr ++ [e]) :=
  ⟨h.1.quiet s e hpose hsent, h.2.1, fun hno => (h.2.2 hno).quiet e hpose hsent⟩

theorem wp_takeOdometryPose (hframes : params.Distinct) (h : Synced quaternionOfYaw params s tr) :
    wp system (Guard quaternionOfYaw params rotation) (TookPose quaternionOfYaw params s)
      (fun _ => Synced quaternionOfYaw params) (takeOdometryPose quaternionOfYaw params s)
      s tr := by
  unfold takeOdometryPose
  split_ifs with haccumulate
  · rw [Bool.and_eq_true] at haccumulate
    refine wp_mono (wp_silent (P := fun s' tr => Synced quaternionOfYaw params s' tr ∧ s' = s)
      uses_getOdoPose (fun _ => Asking.silent) ⟨h, rfl⟩ (fun _ _ hs => Or.inl hs.1) ?_) ?_
      fun _ _ _ hs => hs.1
    · rintro s₁ s₂ tr₁ o r ho hhandle ⟨h₁, rfl⟩
      exact ⟨h₁.quiet s₂ _ (ho.silent.poseOf r) (ho.silent.sentOf r), ho.state_eq hhandle⟩
    · exact fun pose s' tr hs => ⟨hs.1, hs.2, fun hno => absurd haccumulate hno⟩
  · exact wp_mono (wp_broadcastOdometry hframes h)
      (fun pose s' tr hknown => ⟨hknown.1, hknown.2.2, fun _ => hknown.2.1⟩)
      fun _ _ _ hsynced => hsynced

theorem wp_performOdometry (hframes : params.Distinct)
    (h : Synced quaternionOfYaw params s tr) :
    wp system (Guard quaternionOfYaw params rotation) (fun _ => Synced quaternionOfYaw params)
      (fun _ => Synced quaternionOfYaw params)
      (performOdometry quaternionOfYaw params rotation) s tr := by
  refine wp_perform_bind (h.guard trivial) fun m s₁ hm => ?_
  obtain ⟨rfl, rfl⟩ := hm
  refine wp_seq (wp_takeOdometryPose hframes (h.quiet s₁ (.op .members s₁) rfl rfl))
    fun pose s₂ tr₂ h₂ => ?_
  refine wp_perform_bind ⟨Or.inl h₂.1, trivial⟩ fun now s₃ hsame => ?_
  obtain rfl := hsame
  have h₃ := h₂.quiet (.op .now now) rfl rfl
  have hspeed : wp system (Guard quaternionOfYaw params rotation)
      (fun _ => TookPose quaternionOfYaw params s₁ pose)
      (fun _ => TookPose quaternionOfYaw params s₁ pose) (takeRobotSpeed s₁) s₃
      (tr₂ ++ [.op .now now]) := by
    refine wp_silent (uses_takeRobotSpeed s₁) (fun _ => Asking.silent) h₃
      (fun _ _ hs => Or.inl hs.1) ?_
    intro s₄ s₅ tr₄ o r ho hhandle hs
    obtain rfl := ho.state_eq hhandle
    exact hs.quiet _ (ho.silent.poseOf r) (ho.silent.sentOf r)
  refine wp_seq (wp_mono hspeed (fun _ _ _ hs => hs) fun _ _ _ hs => hs.1) fun twist s₄ tr₄ h₄ => ?_
  obtain ⟨hsynced, rfl, hrobot⟩ := h₄
  refine wp_perform_last (hsynced.guard ⟨rfl, fun hno => ⟨pose, rfl, hrobot hno⟩⟩)
    fun u s₅ hsame => ?_
  exact hsynced.quiet _ _ rfl rfl

theorem wp_updateMembers (h : Fetched quaternionOfYaw params frame pose tr)
    (f : Members K → Members K) :
    wp system (Guard quaternionOfYaw params rotation)
      (fun _ s' tr => Fetched quaternionOfYaw params frame pose tr ∧ s' = f s)
      E (updateMembers f) s tr := by
  refine wp_perform_bind ⟨Or.inr h.2.1, trivial⟩ fun m s₁ hm => ?_
  obtain ⟨rfl, rfl⟩ := hm
  have h₁ := h.quiet (.op .members s₁) rfl rfl
  refine wp_perform_last ⟨Or.inr h₁.2.1, trivial⟩ fun u s₂ hset => ?_
  exact ⟨h₁.quiet _ rfl rfl, hset⟩

theorem wp_performRobotPose (hframes : params.Distinct)
    (h : Synced quaternionOfYaw params s tr) :
    wp system (Guard quaternionOfYaw params rotation) (fun _ => Synced quaternionOfYaw params)
      (fun _ => Synced quaternionOfYaw params)
      (performRobotPose quaternionOfYaw params rotation) s tr := by
  refine wp_seq (wp_broadcastFixed hframes (Or.inr rfl) h) ?_
  rintro _ s₁ tr₁ ⟨h₁, hfixed, -⟩
  refine wp_seq (wp_getPose h₁ hfixed) ?_
  rintro pose s₂ tr₂ ⟨h₂, -⟩
  refine wp_seq (wp_updateMembers h₂ _) ?_
  rintro _ s₃ tr₃ ⟨h₃, hmember⟩
  refine wp_seq (wp_broadcastRobot hframes (Or.inr rfl) h₃) ?_
  rintro _ s₄ tr₄ ⟨h₄, hrobot, rfl⟩
  refine wp_perform_bind (h₄.guard trivial) fun now s₅ hsame => ?_
  obtain rfl := hsame
  have h₅ := h₄.quiet s₅ (.op .now now) rfl rfl
  have hpose : s₅.robotPose = pose := by rw [hmember]
  refine wp_perform_last (h₅.guard ⟨rfl, pose, rfl, hpose, hrobot.quiet _ rfl rfl⟩)
    fun u s₆ hsame => ?_
  exact h₅.quiet _ _ rfl rfl

/-! ## The laser -/

theorem wp_takeLaserScan (h : Synced quaternionOfYaw params s tr) :
    wp system (Guard quaternionOfYaw params rotation)
      (fun r s tr => Synced quaternionOfYaw params s tr ∧ (scans tr).getLast? = some r.2)
      (fun _ => Synced quaternionOfYaw params) (takeLaserScan params) s tr := by
  unfold takeLaserScan
  split_ifs
  · refine wp_perform_bind (h.guard trivial) fun start s₁ hsame => ?_
    obtain rfl := hsame
    have h₁ := h.quiet s₁ (.op .now start) rfl rfl
    refine wp_perform_bind (h₁.guard trivial) fun r s₂ hsame => ?_
    obtain rfl := hsame
    have h₂ := h₁.quiet s₂ (.op .getLaserScan r) rfl rfl
    cases r with
    | error e => exact h₂
    | ok tLs =>
        refine wp_perform_bind (h₂.guard trivial) fun stop s₃ hsame => ?_
        obtain rfl := hsame
        refine ⟨h₂.quiet s₃ (.op .now stop) rfl rfl, ?_⟩
        rw [scans_quiet rfl, scans_snoc]
        exact List.getLast?_concat
  · refine wp_perform_bind (h.guard trivial) fun r s₁ hsame => ?_
    obtain rfl := hsame
    have h₁ := h.quiet s₁ (.op .getRawLaserScan r) rfl rfl
    cases r with
    | error e => exact h₁
    | ok tLs =>
        refine ⟨h₁, ?_⟩
        rw [scans_snoc]
        exact List.getLast?_concat

section Laser

variable {robotPose : LaserPose K} {tLs : SystemScan K} {t : Transform K}
  {msgScan : LaserScanMsg K}

/-- A scan is published in the frame that is broadcast with it. -/
def InItsFrame (quaternionOfYaw : K → Quaternion K) (params : Params) (robotPose : LaserPose K)
    (tLs : SystemScan K) (t : Transform K) (msgScan : LaserScanMsg K) : Prop :=
  t.childFrameId = params.laser.laserFrame ∧ t.frameId = params.laser.mapFrame ∧
    motion t = placement quaternionOfYaw (tLs.laserPointsPose.getD robotPose) ∧
      msgScan.frameId = params.laser.laserFrame

theorem wp_publishLaserScan (hframes : params.Distinct)
    {out : Except Exn (Option (Transform K × LaserScanMsg K))}
    (hout : ∀ t msgScan, out = .ok (some (t, msgScan)) →
      InItsFrame quaternionOfYaw params s.robotPose.planar tLs t msgScan)
    (h : Synced quaternionOfYaw params s tr) (hscan : (scans tr).getLast? = some tLs) :
    wp system (Guard quaternionOfYaw params rotation) (fun _ => Synced quaternionOfYaw params)
      (fun _ => Synced quaternionOfYaw params) (publishLaserScan out) s tr := by
  match out with
  | .error e => exact h
  | .ok none => exact h
  | .ok (some (t, msgScan)) =>
      obtain ⟨hchild, hparent, hmotion, hframe⟩ := hout t msgScan rfl
      refine wp_perform_bind (h.guard trivial) fun u s₁ hsame => ?_
      obtain rfl := hsame
      have hsent : lastBroadcasts (tr ++ [.op (.sendTransform t) u]) =
          (lastBroadcasts tr).place params.laser.laserFrame params.laser.mapFrame
            (placement quaternionOfYaw (tLs.laserPointsPose.getD s₁.robotPose.planar)) := by
        rw [lastBroadcasts_sent, hchild, hparent, hmotion]
      have h₁ : Synced quaternionOfYaw params s₁ (tr ++ [.op (.sendTransform t) u]) := by
        rw [Synced, poses_quiet rfl, hsent]
        exact Shape.laserAt hframes h _
      have hpublish : (scans (tr ++ [.op (.sendTransform t) u])).getLast? = some tLs := by
        rw [scans_quiet rfl]
        exact hscan
      refine wp_perform_last (h₁.guard ⟨hframe, tLs, hpublish, ?_⟩) fun v s₂ hsame => ?_
      · rw [hsent]
        exact place_self ..
      · exact h₁.quiet _ _ rfl rfl

variable [LinearOrder K] [FloorRing K] {pi : K}

theorem publishScan_frames {start stop : Int64}
    (h : ServerLaserScanWorker.publishScan pi quaternionOfYaw params.laser robotPose start stop
      tLs = .ok (some (t, msgScan))) :
    InItsFrame quaternionOfYaw params robotPose tLs t msgScan := by
  unfold ServerLaserScanWorker.publishScan at h
  obtain ⟨dblScanDur, -, h⟩ := ExceptState.ok_bind h
  dsimp only at h
  split_ifs at h
  · cases h
  all_goals
    obtain ⟨scan, -, h⟩ := ExceptState.ok_bind h
    obtain ⟨-, -, h⟩ := ExceptState.ok_bind h
    cases h
    exact ⟨rfl, rfl, rfl, rfl⟩

theorem doPerform_frames {clock : Int64 × Int64} {latest : UInt64}
    (h : (ServerLaserScanWorker.doPerform pi quaternionOfYaw params.laser robotPose clock tLs
      latest).1 = .ok (some (t, msgScan))) :
    InItsFrame quaternionOfYaw params robotPose tLs t msgScan := by
  unfold ServerLaserScanWorker.doPerform at h
  split_ifs at h
  · exact publishScan_frames h
  · cases h
  · exact publishScan_frames h

theorem wp_performLaserScan (hframes : params.Distinct)
    (h : Synced quaternionOfYaw params s tr) :
    wp system (Guard quaternionOfYaw params rotation) (fun _ => Synced quaternionOfYaw params)
      (fun _ => Synced quaternionOfYaw params)
      (performLaserScan quaternionOfYaw params pi) s tr := by
  refine wp_seq (wp_takeLaserScan h) ?_
  rintro ⟨clock, tLs⟩ s₁ tr₁ ⟨h₁, hscan⟩
  refine wp_perform_bind (h₁.guard trivial) fun m s₂ hm => ?_
  obtain ⟨rfl, rfl⟩ := hm
  have h₂ := h₁.quiet s₂ (.op .members s₂) rfl rfl
  refine wp_perform_bind (h₂.guard trivial) fun u s₃ hset => ?_
  obtain rfl := hset
  have hpublish : (scans (tr₁ ++ [.op .members s₂] ++ [.op (.setMembers _) u])).getLast? =
      some tLs := by
    rw [scans_quiet rfl, scans_quiet rfl]
    exact hscan
  exact wp_publishLaserScan hframes (fun t msgScan hout => doPerform_frames hout)
    (h₂.quiet _ _ rfl rfl) hpublish

/-! ## Runs -/

variable {c : WorkerConfig K}

theorem wp_jobs (hframes : params.Distinct) (j : Job) (h : Synced quaternionOfYaw params s tr) :
    wp system (Guard quaternionOfYaw params rotation) (fun _ => Synced quaternionOfYaw params)
      (fun _ => Synced quaternionOfYaw params) (jobs quaternionOfYaw params rotation pi j)
      s tr := by
  cases j with
  | reinitOdometry => exact wp_reinitOdometry h
  | performOdometry => exact wp_performOdometry hframes h
  | performRobotPose => exact wp_performRobotPose hframes h
  | performLaserScan => exact wp_performLaserScan hframes h

theorem wp_of_reachable (hframes : params.Distinct)
    (h : Reachable system (jobs quaternionOfYaw params rotation pi) (WorkerConfig.init m) c) :
    wp system (Guard quaternionOfYaw params rotation) (fun _ => Synced quaternionOfYaw params)
      (fun _ => Synced quaternionOfYaw params) c.prog c.state c.trace := by
  refine wp_reachable (fun _ => stable_of_isEmpty _) (fun _ => stable_of_isEmpty _) ?_ ?_ h
  · rintro j s tr (⟨_, hs⟩ | ⟨_, hs⟩) <;>
      exact wp_jobs hframes j (hs.quiet s (.start j) rfl rfl)
  · exact shape_empty

theorem guarded (hframes : params.Distinct)
    (h : Reachable system (jobs quaternionOfYaw params rotation pi) (WorkerConfig.init m) c)
    {o : Op K} {k : Ret o → WorkerM K Unit} (hprog : c.prog = .call o k) :
    Guard quaternionOfYaw params rotation c.state c.trace o := by
  have hwp := wp_of_reachable hframes h
  rw [hprog] at hwp
  exact (wp_call_iff.mp hwp).1

theorem synced_of_done (hframes : params.Distinct)
    (h : Reachable system (jobs quaternionOfYaw params rotation pi) (WorkerConfig.init m) c)
    (hdone : c.prog.Done) : Synced quaternionOfYaw params c.state c.trace := by
  have hwp := wp_of_reachable hframes h
  obtain ⟨p, s, tr⟩ := c
  cases p with
  | ret a => exact hwp
  | throw e => exact hwp
  | call o k => exact hdone.elim

theorem following (hframes : params.Distinct)
    (h : Reachable system (jobs quaternionOfYaw params rotation pi) (WorkerConfig.init m) c) :
    Following quaternionOfYaw params c.trace :=
  wp_reachable_imp (I := fun _ tr => Following quaternionOfYaw params tr)
    (fun _ _ _ hguard => hguard.1) (fun _ _ _ => Or.inl) (fun _ _ _ => Or.inl)
    (wp_of_reachable hframes h)

/-- With the fixed transforms the last broadcasts show the robot in the map where the platform
said it is when it was asked last, by whichever worker and through whichever parent; while a
worker is at it, they may still show it where the platform said before. -/
theorem robot_located (hframes : params.Distinct) (hfixed : params.fixedOdomMapTf = true)
    (h : Reachable system (jobs quaternionOfYaw params rotation pi) (WorkerConfig.init m) c) :
    (c.prog.Done → ∀ x,
      Located (lastBroadcasts c.trace) params.laser.mapFrame params.robotFrame x ↔
        ∃ pose, (poses c.trace).getLast? = some pose ∧
          x = placement quaternionOfYaw pose.planar) ∧
    ∀ x, Located (lastBroadcasts c.trace) params.laser.mapFrame params.robotFrame x →
      ∃ pose, ((poses c.trace).getLast? = some pose ∨
        (poses c.trace).dropLast.getLast? = some pose) ∧
        x = placement quaternionOfYaw pose.planar := by
  constructor
  · exact fun hdone => (synced_of_done hframes h hdone).located_robot_iff hframes hfixed
  · intro x hx
    rcases following hframes h with hshape | hshape
    · obtain ⟨pose, hpose, rfl⟩ := (hshape.located_robot_iff hframes hfixed x).mp hx
      exact ⟨pose, Or.inl hpose, rfl⟩
    · obtain ⟨pose, hpose, rfl⟩ := (hshape.located_robot_iff hframes hfixed x).mp hx
      exact ⟨pose, Or.inr hpose, rfl⟩

/-- Without them the broadcasts never show the robot in the map.  They show it in one of the
frames of the two workers, and not in the other. -/
theorem robot_adrift (hframes : params.Distinct) (hfixed : params.fixedOdomMapTf = false)
    (h : Reachable system (jobs quaternionOfYaw params rotation pi) (WorkerConfig.init m) c) :
    (∀ f x, Located (lastBroadcasts c.trace) params.laser.mapFrame f x →
      f = params.laser.mapFrame ∨ f = params.laser.laserFrame) ∧
    (c.prog.Done → ∀ pose, (poses c.trace).getLast? = some pose →
      ∃ frame, params.IsParent frame ∧ ∀ a, params.IsParent a → ∀ x,
        Located (lastBroadcasts c.trace) a params.robotFrame x ↔
          a = frame ∧ x = placement quaternionOfYaw pose.planar) := by
  constructor
  · intro f x hx
    rcases following hframes h with hshape | hshape
    · exact hshape.located_below_map hframes hfixed hx
    · exact hshape.located_below_map hframes hfixed hx
  · intro hdone pose hpose
    have hshape := synced_of_done hframes h hdone
    rw [Synced, hpose] at hshape
    obtain ⟨frame, hframe, hall⟩ := hshape.located_in_parent hframes hfixed
    exact ⟨frame, hframe, fun a ha => hall a (Or.inr ha)⟩

omit [LinearOrder K] [FloorRing K] in
theorem RobotIn.located (hframes : params.Distinct) (hframe : params.IsParent frame)
    (hfixed : params.fixedOdomMapTf = true) (h : RobotIn quaternionOfYaw params frame pose tr) :
    Located (lastBroadcasts tr) params.laser.mapFrame frame 1 ∧
      Located (lastBroadcasts tr) params.laser.mapFrame params.robotFrame
        (placement quaternionOfYaw pose.planar) := by
  have hparent := (located_iff_of_child (hframes.parent_ne_map hframe) (h.2.1 hfixed)).mpr rfl
  refine ⟨hparent, (located_iff_of_edge hframes.robot_ne_map h.2.2).mpr ⟨1, hparent, ?_⟩⟩
  rw [one_mul]

/-- Whenever a worker publishes, the frame of the message has been broadcast: the pose of an
odometry or robot pose message is the one at which the last broadcasts show the robot in the
map, and the scan is placed where it was taken.  The accumulated odometry is not broadcast. -/
theorem published_located (hframes : params.Distinct) (hfixed : params.fixedOdomMapTf = true)
    (h : Reachable system (jobs quaternionOfYaw params rotation pi) (WorkerConfig.init m) c) :
    (∀ msg k, c.prog = .call (.publishOdometry msg) k →
      ¬(params.pubAccumulateOdometry = true ∧ c.state.isOdoPoseFeatureSupported = true) →
      Located (lastBroadcasts c.trace) params.laser.mapFrame msg.frameId 1 ∧
        ∃ pose, (poses c.trace).getLast? = some pose ∧ msg.pose = poseMsg rotation pose ∧
          Located (lastBroadcasts c.trace) params.laser.mapFrame params.robotFrame
            (placement quaternionOfYaw pose.planar)) ∧
    (∀ msg k, c.prog = .call (.publishRobotPose msg) k →
      Located (lastBroadcasts c.trace) params.laser.mapFrame msg.frameId 1 ∧
        ∃ pose, (poses c.trace).getLast? = some pose ∧ msg.pose = poseMsg rotation pose ∧
          Located (lastBroadcasts c.trace) params.laser.mapFrame params.robotFrame
            (placement quaternionOfYaw pose.planar)) ∧
    ∀ msg k, c.prog = .call (.publishLaserScan msg) k →
      ∃ tLs, (scans c.trace).getLast? = some tLs ∧
        Located (lastBroadcasts c.trace) params.laser.mapFrame msg.frameId
          (placement quaternionOfYaw
            (tLs.laserPointsPose.getD c.state.robotPose.planar)) := by
  refine ⟨fun msg k hprog hno => ?_, fun msg k hprog => ?_, fun msg k hprog => ?_⟩
  · obtain ⟨-, hframe, hpose⟩ := guarded hframes h hprog
    obtain ⟨pose, hmsg, hrobot⟩ := hpose hno
    obtain ⟨hparent, hlocated⟩ := hrobot.located hframes (Or.inl rfl) hfixed
    rw [hframe]
    exact ⟨hparent, pose, hrobot.1, hmsg, hlocated⟩
  · obtain ⟨-, hframe, pose, hmsg, -, hrobot⟩ := guarded hframes h hprog
    obtain ⟨hparent, hlocated⟩ := hrobot.located hframes (Or.inr rfl) hfixed
    rw [hframe]
    exact ⟨hparent, pose, hrobot.1, hmsg, hlocated⟩
  · obtain ⟨-, hframe, tLs, hlast, hedge⟩ := guarded hframes h hprog
    rw [hframe]
    exact ⟨tLs, hlast, (located_iff_of_child hframes.laser_ne_map hedge).mpr rfl⟩

end Laser

/-! ## The default frames -/

/-- The accumulated odometry is asked for, but the platform may not support it. -/
def exampleParams (fixedOdomMapTf : Bool) : Params where
  pubAccumulateOdometry := true
  fixedOdomMapTf := fixedOdomMapTf
  odomFrame := "odom"
  robotFrame := "base_link"
  robotPoseFrame := "robot_pose"
  laser := ⟨false, false, true, "laser", "map"⟩

theorem exampleParams_distinct (fixedOdomMapTf : Bool) :
    (exampleParams fixedOdomMapTf).Distinct := by
  constructor <;> simp [exampleParams]

def firstPose : Pose ℚ := ⟨⟨2, 3, 0⟩, ⟨0, 0, 0⟩⟩

def nextPose : Pose ℚ := ⟨⟨2, 4, 0⟩, ⟨0, 0, 0⟩⟩

def exampleMembers : Members ℚ := ⟨false, false, 0, ⟨⟨0, 0, 0⟩, ⟨0, 0, 0⟩⟩⟩

/-- The robot moves on once its first pose is known.  It has no laser. -/
def exampleHandler : (o : Op ℚ) → Members ℚ → Ret o × Members ℚ
  | .getOdoPose, s => (.error .unsupportedCommand, s)
  | .getPose, s => (.ok (if s.robotPose.location.x = 2 then nextPose else firstPose), s)
  | .getSpeed, s => (.error .unsupportedCommand, s)
  | .getLaserScan, s => (.error .operationFail, s)
  | .getRawLaserScan, s => (.error .operationFail, s)
  | .now, s => (7, s)
  | .members, s => (s, s)
  | .setMembers m, _ => ((), m)
  | .sendTransform _, s => ((), s)
  | .publishOdometry _, s => ((), s)
  | .publishRobotPose _, s => ((), s)
  | .publishLaserScan _, s => ((), s)

theorem handle_exampleHandler (s : Members ℚ) (o : Op ℚ) :
    system.handle s o (exampleHandler o s).1 (exampleHandler o s).2 := by
  cases o with
  | members => exact ⟨rfl, rfl⟩
  | _ => rfl

abbrev exampleJobs (fixedOdomMapTf : Bool) : Job → WorkerM ℚ Unit :=
  jobs (fun _ => 1) (exampleParams fixedOdomMapTf) MsgConvert.exampleRotation 3

/-- The worker of the robot pose, and then that of the odometry. -/
def exampleMoves (fixedOdomMapTf : Bool) : List (Move Empty Job) :=
  let broadcasts := if fixedOdomMapTf then 2 else 0
  .start .performRobotPose :: List.replicate (7 + broadcasts) .op ++
    .start .performOdometry :: List.replicate (6 + broadcasts) .op

def exampleRun (fixedOdomMapTf : Bool) : ℕ → WorkerConfig ℚ :=
  (WorkerConfig.init exampleMembers).runOf exampleHandler (fun a => a.elim)
    (exampleJobs fixedOdomMapTf) (exampleMoves fixedOdomMapTf)

theorem reachable_exampleRun (fixedOdomMapTf : Bool) {n : ℕ}
    (hn : n ≤ (exampleMoves fixedOdomMapTf).length) :
    Reachable system (exampleJobs fixedOdomMapTf) (WorkerConfig.init exampleMembers)
      (exampleRun fixedOdomMapTf n) := by
  have hrun : IsRun system (exampleJobs fixedOdomMapTf) (exampleRun fixedOdomMapTf)
      (exampleMoves fixedOdomMapTf).length := by
    refine isRun_runOf handle_exampleHandler (fun _ a => a.elim) ?_
    cases fixedOdomMapTf <;> rfl
  exact hrun.reachable hn

theorem robot_located_at_pose :
    Located (lastBroadcasts (exampleRun true 19).trace) "map" "base_link"
      (placement (fun _ => 1) nextPose.planar) :=
  ((robot_located (exampleParams_distinct true) rfl
    (reachable_exampleRun true (n := 19) (by decide))).1 trivial _).mpr ⟨nextPose, rfl, rfl⟩

theorem robot_adrift_at_pose :
    ¬∃ x, Located (lastBroadcasts (exampleRun false 15).trace) "map" "base_link" x := by
  rintro ⟨x, hx⟩
  rcases (robot_adrift (exampleParams_distinct false) rfl
    (reachable_exampleRun false (n := 15) (by decide))).1 _ x hx with h | h
  · exact absurd h (by decide)
  · exact absurd h (by decide)

/-- The messages of both workers, each about to be published. -/
theorem published_located_at_pose :
    (∃ msg k, (exampleRun true 9).prog = .call (.publishRobotPose msg) k ∧
      Located (lastBroadcasts (exampleRun true 9).trace) "map" msg.frameId 1) ∧
    ∃ msg k, (exampleRun true 18).prog = .call (.publishOdometry msg) k ∧
      Located (lastBroadcasts (exampleRun true 18).trace) "map" msg.frameId 1 := by
  have hreach : ∀ n, n ≤ 19 → Reachable system (exampleJobs true)
      (WorkerConfig.init exampleMembers) (exampleRun true n) :=
    fun n hn => reachable_exampleRun true (hn.trans (by decide))
  have hframes := exampleParams_distinct true
  constructor
  · exact ⟨_, _, rfl, ((published_located hframes rfl (hreach 9 (by decide))).2.1 _ _ rfl).1⟩
  · exact ⟨_, _, rfl, ((published_located hframes rfl (hreach 18 (by decide))).1 _ _ rfl
      (fun h => Bool.false_ne_true h.2)).1⟩

end Ros2WsDemo.Transforms

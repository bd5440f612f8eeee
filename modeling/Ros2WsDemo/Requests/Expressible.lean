import Ros2WsDemo.Requests.Served

/-!
# What messages can express

The calls that reach a robot are exactly those that some message expresses.  The messages know
five kinds of maps and two usages of lines; they leave most options as the SDK makes them, and
choose the navigation mode by two flags.
-/

namespace Ros2WsDemo.Requests

open Effect MsgConvert

variable {Flt Dbl Scan ρ : Type}

section Expressible

variable [Zero Dbl] (sdk : Sdk Flt Dbl Scan)

/-- Flags and ratio are free. -/
def Basic (options : MoveOptions Dbl) : Prop :=
  options = { sdk.newMoveOptions with flag := options.flag, speedRatio := options.speedRatio }

/-- ... and the direction at the target; the flags decide the mode. -/
structure Targeted (options : MoveOptions Dbl) : Prop where
  yaw : ∃ yaw, options.yaw = some (sdk.toDouble yaw)
  failRetryCount : options.failRetryCount = sdk.newMoveOptions.failRetryCount
  acceptablePrecision : options.acceptablePrecision = sdk.newMoveOptions.acceptablePrecision
  mode : options.mode =
    if sdk.hasFlag options.flag MoveOptions.keyPoints then
      if sdk.hasFlag options.flag MoveOptions.keyPointsWithOA then .priorityVirtualTrack
      else .strictVirtualTrack
    else sdk.newMoveOptions.mode

/-- The goal of another node: on the ground, with fixed flags. -/
def IsGoal (location : Location Dbl) (options : MoveOptions Dbl) : Prop :=
  location.z = 0 ∧ ∃ orientation, options = { sdk.newMoveOptions with
    flag := 50
    yaw := some (sdk.toDouble (sdk.getYaw orientation)) }

def knownKinds : List MapKind := [.exploreMap, .sweeperMap, .uwbMap, .slamMap, .localSlamMap]

def knownUsages : List ArtifactUsage := [.virtualWall, .virtualTrack]

def Expressible : RobotCall Flt Dbl Scan → Prop
  | .moveTo location options => Targeted sdk options ∨ IsGoal sdk location options
  | .moveToLocations _ options => Targeted sdk options
  | .moveByDirection _ options => Basic sdk options
  | .moveByTheta _ options => Basic sdk options
  | .rotateTo rotation options =>
      rotation ∈ Set.range sdk.toRotation ∧ options = sdk.newRotateActionOptions
  | .rotate rotation options =>
      rotation ∈ Set.range sdk.toRotation ∧ options = sdk.newRotateActionOptions
  | .recoverLocalization _ options =>
      options.observation = sdk.newRecoverLocalizationOptions.observation ∧
        options.recoverMovementType ≠ some .manual
  | .clearMap kind => kind ∈ knownKinds
  | .setMapUpdate _ kind => kind ∈ knownKinds
  | .setPose pose => pose.rotation ∈ Set.range sdk.toRotation
  | .addLine usage _ => usage ∈ knownUsages
  | .addLines usage _ => usage ∈ knownUsages
  | .removeLineById usage _ => usage ∈ knownUsages
  | .clearLines usage => usage ∈ knownUsages
  | .moveLine usage _ => usage ∈ knownUsages
  | .moveLines usage _ => usage ∈ knownUsages
  | .setMapLocalization _ => True
  | .goHome => True
  | .getCurrentAction => True
  | .cancel _ => True

/-! ## Conversions and their images -/

theorem mapKind_eq_ok {kind : MapKind} (msg : MapKindMsg) :
    mapKind.toSltc msg .exploreMap = .ok kind → kind ∈ knownKinds := by
  intro h
  simp only [mapKind] at h
  split at h <;> cases h <;> decide

theorem artifactUsage_eq_ok {usage : ArtifactUsage} (msg : ArtifactUsageMsg) :
    artifactUsage.toSltc msg .virtualWall = .ok usage → usage ∈ knownUsages := by
  intro h
  simp only [artifactUsage] at h
  split at h <;> cases h <;> decide

theorem mapKind_toRos {kind : MapKind} (h : kind ∈ knownKinds) :
    mapKind.toSltc (mapKind.toRos kind ⟨0⟩) .exploreMap = .ok kind := by
  cases kind <;> first | rfl | exact absurd h (by decide)

theorem artifactUsage_toRos {usage : ArtifactUsage} (h : usage ∈ knownUsages) :
    artifactUsage.toSltc (artifactUsage.toRos usage ⟨0⟩) .virtualWall = .ok usage := by
  cases usage <;> first | rfl | exact absurd h (by decide)

theorem directionOf_toRos (direction : ActionDirection) :
    directionOf (actionDirection.toRos direction ⟨0⟩) = direction := by
  cases direction <;> rfl

theorem movementOf_ne_manual (movement : LocalizationMovementMsg) :
    movementOf movement ≠ .manual := by
  rw [movementOf]
  split <;> nofun

theorem movementOf_toRos {movement : RecoverLocalizationMovement} (h : movement ≠ .manual) :
    movementOf (localizationMovement.toRos movement default) = movement := by
  cases movement <;> first | rfl | exact absurd rfl h

variable {sdk}

omit [Zero Dbl] in
theorem requestedOptions_toRos [Inhabited Dbl] {options : MoveOptions Dbl}
    (h : Basic sdk options) (msg : MoveOptionsMsg Dbl) :
    requestedOptions sdk (moveOptions.toRos options msg) = options := by
  simp only [requestedOptions, moveOptions, rosMsgToOptional_optionalToRosMsg]
  exact h.symm

omit [Zero Dbl] in
/-- Options for a target come from basic ones. -/
theorem Targeted.exists_basic {options : MoveOptions Dbl} (h : Targeted sdk options) :
    ∃ basic yaw, Basic sdk basic ∧ targetOptions sdk basic yaw = options := by
  obtain ⟨yaw, hyaw⟩ := h.yaw
  refine ⟨{ sdk.newMoveOptions with flag := options.flag, speedRatio := options.speedRatio }, yaw,
    rfl, ?_⟩
  obtain ⟨mode, flag, ratio, count, yaw', precision⟩ := options
  obtain ⟨-, hcount, hprecision, hmode⟩ := h
  simp only at hyaw hmode hcount hprecision
  rw [hyaw, hmode, hcount, hprecision]
  rfl

omit [Zero Dbl] in
theorem targeted_targetOptions (options : MoveOptionsMsg Dbl) (yaw : Flt) :
    Targeted sdk (targetOptions sdk (requestedOptions sdk options) yaw) where
  yaw := ⟨yaw, rfl⟩
  failRetryCount := rfl
  acceptablePrecision := rfl
  mode := rfl

omit [Zero Dbl] in
theorem ofKind_eq_call {kind : MapKindMsg} {f : MapKind → RobotCall Flt Dbl Scan}
    {c : RobotCall Flt Dbl Scan} (h : ofKind kind f = .ok (.call c)) :
    ∃ k ∈ knownKinds, c = f k := by
  cases hkind : mapKind.toSltc kind .exploreMap with
  | error e =>
      rw [ofKind, hkind] at h
      cases h
  | ok k =>
      rw [ofKind, hkind] at h
      cases h
      exact ⟨k, mapKind_eq_ok kind hkind, rfl⟩

omit [Zero Dbl] in
theorem ofUsage_eq_call {usage : ArtifactUsageMsg} {f : ArtifactUsage → RobotCall Flt Dbl Scan}
    {c : RobotCall Flt Dbl Scan} (h : ofUsage usage f = .ok (.call c)) :
    ∃ u ∈ knownUsages, c = f u := by
  cases husage : artifactUsage.toSltc usage .virtualWall with
  | error e =>
      rw [ofUsage, husage] at h
      cases h
  | ok u =>
      rw [ofUsage, husage] at h
      cases h
      exact ⟨u, artifactUsage_eq_ok usage husage, rfl⟩

/-! ## Messages and calls -/

theorem demand_expressible {request : Request Flt Dbl} {c : RobotCall Flt Dbl Scan}
    (h : demand sdk request = .ok (.call c)) : Expressible sdk c := by
  cases request with
  | moveToGoal msg =>
      cases h
      exact Or.inr ⟨rfl, msg.orientation, rfl⟩
  | syncMap => cases h
  | cancelAction => cases h
  | setPose msg =>
      cases h
      exact ⟨msg.orientation, rfl⟩
  | recoverLocalization area options =>
      cases h
      refine ⟨rfl, fun hmanual => ?_⟩
      obtain ⟨movement, -, hm⟩ := Option.map_eq_some_iff.mp hmanual
      exact movementOf_ne_manual movement hm
  | clearMap kind =>
      obtain ⟨k, hk, rfl⟩ := ofKind_eq_call h
      exact hk
  | setMapUpdate enabled kind =>
      obtain ⟨k, hk, rfl⟩ := ofKind_eq_call h
      exact hk
  | setMapLocalization enabled => cases h; trivial
  | moveByDirection direction options => cases h; rfl
  | moveByTheta theta options => cases h; rfl
  | moveTo location options yaw =>
      cases h
      exact Or.inl (targeted_targetOptions options yaw)
  | moveToLocations locations options yaw =>
      cases h
      exact targeted_targetOptions options yaw
  | rotateTo orientation options =>
      cases h
      exact ⟨⟨orientation, rfl⟩, rfl⟩
  | rotate rotation options =>
      cases h
      exact ⟨⟨rotation, rfl⟩, rfl⟩
  | goHome => cases h; trivial
  | _ =>
      obtain ⟨u, hu, rfl⟩ := ofUsage_eq_call h
      exact hu

omit [Zero Dbl] in
theorem lines_toRos [Zero Flt] (lines : List (Line Flt)) :
    (lines.map fun line => line2DFlt32.toRos line default).map lineOf = lines := by
  rw [List.map_map]
  exact List.map_id lines

/-- The message is built with the conversions of the server itself. -/
theorem expressible_demand [Zero Flt] [Inhabited Dbl] {c : RobotCall Flt Dbl Scan}
    (h : Expressible sdk c) (hcurrent : c ≠ .getCurrentAction) (hcancel : ∀ a, c ≠ .cancel a) :
    ∃ request, demand sdk request = .ok (.call c) := by
  cases c with
  | moveTo location options =>
      rcases h with h | ⟨hz, orientation, rfl⟩
      · obtain ⟨basic, yaw, hbasic, rfl⟩ := h.exists_basic
        refine ⟨.moveTo location (moveOptions.toRos basic ⟨0, default⟩) yaw, ?_⟩
        rw [demand, requestedOptions_toRos hbasic]
      · obtain ⟨x, y, z⟩ := location
        cases hz
        exact ⟨.moveToGoal ⟨⟨x, y, 0⟩, orientation⟩, rfl⟩
  | moveToLocations locations options =>
      obtain ⟨basic, yaw, hbasic, rfl⟩ := Targeted.exists_basic h
      refine ⟨.moveToLocations locations (moveOptions.toRos basic ⟨0, default⟩) yaw, ?_⟩
      rw [demand, requestedOptions_toRos hbasic]
  | moveByDirection direction options =>
      refine ⟨.moveByDirection (actionDirection.toRos direction ⟨0⟩)
        (moveOptions.toRos options ⟨0, default⟩), ?_⟩
      rw [demand, directionOf_toRos, requestedOptions_toRos h]
  | moveByTheta theta options =>
      refine ⟨.moveByTheta theta (moveOptions.toRos options ⟨0, default⟩), ?_⟩
      rw [demand, requestedOptions_toRos h]
  | rotateTo orientation options =>
      obtain ⟨⟨quaternion, rfl⟩, rfl⟩ := h
      exact ⟨.rotateTo quaternion ⟨0, default⟩, rfl⟩
  | rotate rotation options =>
      obtain ⟨⟨quaternion, rfl⟩, rfl⟩ := h
      exact ⟨.rotate quaternion ⟨0, default⟩, rfl⟩
  | recoverLocalization area options =>
      obtain ⟨time, movement, observation⟩ := options
      obtain ⟨hobservation, hmanual⟩ := h
      simp only at hobservation hmanual
      refine ⟨.recoverLocalization ⟨area.x, area.y, area.width, area.height⟩
        ⟨optionalToRosMsg time default,
          localizationMovement.toRosOptionalMsg movement default⟩, ?_⟩
      rw [demand, rosMsgToOptional_optionalToRosMsg, hobservation]
      cases movement with
      | none => rfl
      | some movement =>
          have hmovement := movementOf_toRos fun he => hmanual (congrArg some he)
          simp only [toRosOptionalMsg, rosMsgToOptional, if_true, Option.map_some]
          rw [show (default : OptionalMsg LocalizationMovementMsg).value = default from rfl,
            hmovement]
  | clearMap kind =>
      refine ⟨.clearMap (mapKind.toRos kind ⟨0⟩), ?_⟩
      rw [demand, ofKind, mapKind_toRos h]
      rfl
  | setMapUpdate update kind =>
      refine ⟨.setMapUpdate update (mapKind.toRos kind ⟨0⟩), ?_⟩
      rw [demand, ofKind, mapKind_toRos h]
      rfl
  | setMapLocalization localization => exact ⟨.setMapLocalization localization, rfl⟩
  | setPose pose =>
      obtain ⟨location, rotation⟩ := pose
      obtain ⟨quaternion, rfl⟩ := h
      exact ⟨.setPose ⟨location, quaternion⟩, rfl⟩
  | goHome => exact ⟨.goHome, rfl⟩
  | getCurrentAction => exact absurd rfl hcurrent
  | cancel action => exact absurd rfl (hcancel action)
  | addLine usage line =>
      refine ⟨.addLine (artifactUsage.toRos usage ⟨0⟩) (line2DFlt32.toRos line default), ?_⟩
      rw [demand, ofUsage, artifactUsage_toRos h]
      rfl
  | addLines usage lines =>
      refine ⟨.addLines (artifactUsage.toRos usage ⟨0⟩)
        (lines.map fun line => line2DFlt32.toRos line default), ?_⟩
      rw [demand, lines_toRos, ofUsage, artifactUsage_toRos h]
      rfl
  | removeLineById usage id =>
      refine ⟨.removeLine (artifactUsage.toRos usage ⟨0⟩) id, ?_⟩
      rw [demand, ofUsage, artifactUsage_toRos h]
      rfl
  | clearLines usage =>
      refine ⟨.clearLines (artifactUsage.toRos usage ⟨0⟩), ?_⟩
      rw [demand, ofUsage, artifactUsage_toRos h]
      rfl
  | moveLine usage line =>
      refine ⟨.moveLine (artifactUsage.toRos usage ⟨0⟩) (line2DFlt32.toRos line default), ?_⟩
      rw [demand, ofUsage, artifactUsage_toRos h]
      rfl
  | moveLines usage lines =>
      refine ⟨.moveLines (artifactUsage.toRos usage ⟨0⟩)
        (lines.map fun line => line2DFlt32.toRos line default), ?_⟩
      rw [demand, lines_toRos, ofUsage, artifactUsage_toRos h]
      rfl

/-! ## Runs -/

theorem Demand.serve_expressible {R : Robot Flt Dbl Scan ρ} {s : State ρ}
    {request : Request Flt Dbl} {d : Demand Flt Dbl Scan} (h : demand sdk request = .ok d) :
    ∀ c ∈ (d.serve R s).1, Expressible sdk c := by
  cases d with
  | call c =>
      intro c' hc'
      rw [List.mem_singleton.mp hc']
      exact demand_expressible h
  | cancelCurrent =>
      simp only [Demand.serve]
      split
      · rintro c (_ | ⟨_, _ | ⟨_, hc⟩⟩)
        · trivial
        · trivial
        · cases hc
      · intro c hc
        rw [List.mem_singleton.mp hc]
        trivial
  | sync => exact fun c hc => absurd hc List.not_mem_nil

theorem serveRequest_expressible {R : Robot Flt Dbl Scan ρ} {s : State ρ}
    (request : Request Flt Dbl) : ∀ c ∈ (serveRequest sdk R request s).1, Expressible sdk c := by
  simp only [serveRequest]
  split
  · split
    next d hdemand => exact Demand.serve_expressible hdemand
    next => exact fun c hc => absurd hc List.not_mem_nil
  · exact fun c hc => absurd hc List.not_mem_nil

variable (sdk)

/-- No message makes the robot do anything else, and whatever the options of a call, if a
message expresses it then a robot that is connected is given this call and no other. -/
theorem calls_exactly_expressible [Zero Flt] [Inhabited Dbl] (R : Robot Flt Dbl Scan ρ) :
    (∀ (requests : List (Request Flt Dbl)) (s : State ρ),
      ∀ c ∈ calls (handleRequests sdk R requests s).2.2, Expressible sdk c) ∧
    ∀ c : RobotCall Flt Dbl Scan, Expressible sdk c →
      c ≠ .getCurrentAction → (∀ a, c ≠ .cancel a) →
      ∃ request : Request Flt Dbl, ∀ s : State ρ, (R.connected s.robot).1 = true →
        calls (handleRequest sdk R request s).2.2 = [c] := by
  constructor
  · intro requests
    induction requests with
    | nil => exact fun _ => nofun
    | cons request requests ih =>
        intro s c hc
        simp only [handleRequests, calls_append] at hc
        rcases List.mem_append.mp hc with hc | hc
        · rw [(handleRequest_serves sdk request).2.1] at hc
          exact serveRequest_expressible request c hc
        · exact ih _ c hc
  · intro c hc hcurrent hcancel
    obtain ⟨request, hrequest⟩ := expressible_demand hc hcurrent hcancel
    refine ⟨request, fun s hconnected => ?_⟩
    rw [(handleRequest_serves sdk request).2.1, serveRequest, if_pos hconnected, hrequest]
    rfl

end Expressible

/-- The way home has its message; no message asks for a turn that is retried. -/
theorem calls_exactly_expressible_goHome :
    (∃ request : Request ℤ ℤ, ∀ s : State ℕ, (trialRobot.connected s.robot).1 = true →
      calls (handleRequest trialSdk trialRobot request s).2.2 = [.goHome]) ∧
    ¬ Expressible trialSdk
      (.moveByTheta 0 { trialSdk.newMoveOptions with failRetryCount := some 1 }) :=
  ⟨(calls_exactly_expressible trialSdk trialRobot).2 .goHome trivial nofun nofun,
    fun h => by cases congrArg MoveOptions.failRetryCount h⟩

end Ros2WsDemo.Requests

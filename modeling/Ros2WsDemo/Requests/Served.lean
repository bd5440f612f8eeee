import Ros2WsDemo.Requests.Callbacks

/-!
# What the robot is asked to do

A message stands for one demand, or for none when a number in it has no meaning.  The server
serves the demands of the messages in order, and nothing else reaches the robot; this is a
simulation of the callbacks by a machine that knows no messages.  The calls that messages
can lead to at all are characterized afterwards.
-/

namespace Ros2WsDemo.Requests

open Effect MsgConvert

variable {Flt Dbl Scan ρ : Type}

/-! ## Demands -/

inductive Demand (Flt Dbl Scan : Type) where
  | call (c : RobotCall Flt Dbl Scan)
  | cancelCurrent
  | sync

/-- The calls that serve a demand, and what becomes of the state. -/
def Demand.serve (R : Robot Flt Dbl Scan ρ) (s : State ρ) :
    Demand Flt Dbl Scan → List (RobotCall Flt Dbl Scan) × State ρ
  | call c => ([c], { s with robot := (R.call c s.robot).2 })
  | cancelCurrent =>
      match R.call .getCurrentAction s.robot with
      | (.ok (some action), robot) =>
          ([.getCurrentAction, .cancel action],
            { s with robot := (R.call (.cancel action) robot).2 })
      | (_, robot) => ([.getCurrentAction], { s with robot := robot })
  | sync => ([], { s with syncMapRequested := true })

section Demand

variable [Zero Dbl] (sdk : Sdk Flt Dbl Scan)

/-- New options with the flags and the ratio of a message. -/
def requestedOptions (options : MoveOptionsMsg Dbl) : MoveOptions Dbl :=
  { sdk.newMoveOptions with
    flag := options.optFlags
    speedRatio := rosMsgToOptional options.speedRatio }

def lineOf (line : Line2DFlt32 Flt) : Line Flt := ⟨line.start, line.end, line.id⟩

def movementOf (movement : LocalizationMovementMsg) : RecoverLocalizationMovement :=
  match movement.type with
  | LocalizationMovementMsg.noMove => .noMove
  | LocalizationMovementMsg.rotateOnly => .rotateOnly
  | LocalizationMovementMsg.any => .any
  | _ => .unknown

def directionOf (direction : ActionDirectionMsg) : ActionDirection :=
  match direction.direction with
  | ActionDirectionMsg.forward => .forward
  | ActionDirectionMsg.backward => .backward
  | ActionDirectionMsg.turnRight => .turnRight
  | ActionDirectionMsg.turnLeft => .turnLeft
  | _ => .invalidDirection

def ofKind (kind : MapKindMsg) (f : MapKind → RobotCall Flt Dbl Scan) :
    Except Exn (Demand Flt Dbl Scan) :=
  (mapKind.toSltc kind .exploreMap).map fun k => .call (f k)

def ofUsage (usage : ArtifactUsageMsg) (f : ArtifactUsage → RobotCall Flt Dbl Scan) :
    Except Exn (Demand Flt Dbl Scan) :=
  (artifactUsage.toSltc usage .virtualWall).map fun u => .call (f u)

/-- What a message asks for. -/
def demand : Request Flt Dbl → Except Exn (Demand Flt Dbl Scan)
  | .moveToGoal msg => .ok (.call (.moveTo ⟨msg.position.x, msg.position.y, 0⟩
      { sdk.newMoveOptions with
        flag := MoveOptions.milestone ||| MoveOptions.precise ||| MoveOptions.withYaw
        yaw := some (sdk.toDouble (sdk.getYaw msg.orientation)) }))
  | .syncMap => .ok .sync
  | .setPose msg => .ok (.call (.setPose ⟨msg.position, sdk.toRotation msg.orientation⟩))
  | .recoverLocalization area options =>
      .ok (.call (.recoverLocalization ⟨area.x, area.y, area.w, area.h⟩
        { sdk.newRecoverLocalizationOptions with
          maxRecoverTimeInMilliSeconds := rosMsgToOptional options.maxTimeMs
          recoverMovementType := (rosMsgToOptional options.mvmtType).map movementOf }))
  | .clearMap kind => ofKind kind .clearMap
  | .setMapUpdate enabled kind => ofKind kind (.setMapUpdate enabled)
  | .setMapLocalization enabled => .ok (.call (.setMapLocalization enabled))
  | .moveByDirection direction options =>
      .ok (.call (.moveByDirection (directionOf direction) (requestedOptions sdk options)))
  | .moveByTheta theta options => .ok (.call (.moveByTheta theta (requestedOptions sdk options)))
  | .moveTo location options yaw =>
      .ok (.call (.moveTo location (targetOptions sdk (requestedOptions sdk options) yaw)))
  | .moveToLocations locations options yaw =>
      .ok (.call (.moveToLocations locations
        (targetOptions sdk (requestedOptions sdk options) yaw)))
  | .rotateTo orientation _ =>
      .ok (.call (.rotateTo (sdk.toRotation orientation) sdk.newRotateActionOptions))
  | .rotate rotation _ =>
      .ok (.call (.rotate (sdk.toRotation rotation) sdk.newRotateActionOptions))
  | .goHome => .ok (.call .goHome)
  | .cancelAction => .ok .cancelCurrent
  | .addLine usage line => ofUsage usage fun u => .addLine u (lineOf line)
  | .addLines usage lines => ofUsage usage fun u => .addLines u (lines.map lineOf)
  | .removeLine usage id => ofUsage usage fun u => .removeLineById u id
  | .clearLines usage => ofUsage usage .clearLines
  | .moveLine usage line => ofUsage usage fun u => .moveLine u (lineOf line)
  | .moveLines usage lines => ofUsage usage fun u => .moveLines u (lines.map lineOf)

end Demand

/-! ## The callbacks serve demands -/

/-- Serving a demand, as a callback. -/
def act : Demand Flt Dbl Scan → CallbackM Flt Dbl Scan Unit
  | .call c => call c >>= fun _ => return
  | .cancelCurrent => msgCbCancelAction
  | .sync => msgCbSyncMap

/-- A conversion that may fail comes before everything else. -/
theorem convert_act {α : Type} {x : Except Exn α} {f : α → RobotCall Flt Dbl Scan}
    {g : α → CallbackM Flt Dbl Scan Unit} (h : ∀ a, g a = act (.call (f a))) :
    (ofExcept x >>= g) = ofExcept (x.map fun a => Demand.call (f a)) >>= act := by
  cases x with
  | ok a => exact h a
  | error e => rfl

section Callbacks

variable [Zero Flt] [Zero Dbl] [Inhabited Dbl] (sdk : Sdk Flt Dbl Scan)

theorem localizationOptions_toSltc (options : LocalizationOptions)
    (sltc : RecoverLocalizationOptions Scan) :
    localizationOptions.toSltc options sltc = .ok { sltc with
      maxRecoverTimeInMilliSeconds := rosMsgToOptional options.maxTimeMs
      recoverMovementType := (rosMsgToOptional options.mvmtType).map movementOf } := by
  simp only [localizationOptions, fromRosOptionalMsg, rosMsgToOptional]
  split_ifs <;> rfl

omit [Inhabited Dbl] in
theorem locations_toSltc (locations : List (Location Dbl)) :
    (vector location).toSltc locations [] = .ok locations := by
  rw [vector_toSltc (f := id) fun _ _ => rfl, List.map_id]

theorem lines_toSltc (lines : List (Line2DFlt32 Flt)) :
    (vector line2DFlt32).toSltc lines [] = .ok (lines.map lineOf) :=
  vector_toSltc (fun _ _ => rfl) lines []

/-- A callback converts its message, then serves the demand. -/
theorem callback_eq (request : Request Flt Dbl) :
    callback sdk request = ofExcept (demand sdk request) >>= act := by
  cases request with
  | moveToGoal msg => exact (Prog.bind_pure _).symm
  | syncMap => rfl
  | setPose msg => exact (Prog.bind_pure _).symm
  | recoverLocalization area options =>
      simp only [callback, msgCbRecoverLocalization, localizationOptions_toSltc]
      exact (Prog.bind_pure _).symm
  | clearMap kind => exact convert_act fun _ => (Prog.bind_pure _).symm
  | setMapUpdate enabled kind => exact convert_act fun _ => (Prog.bind_pure _).symm
  | setMapLocalization enabled => exact (Prog.bind_pure _).symm
  | moveByDirection direction options => exact (Prog.bind_pure _).symm
  | moveByTheta theta options => exact (Prog.bind_pure _).symm
  | moveTo location options yaw => exact (Prog.bind_pure _).symm
  | moveToLocations locations options yaw =>
      simp only [callback, msgCbMoveToLocations, locations_toSltc]
      exact (Prog.bind_pure _).symm
  | rotateTo orientation options => exact (Prog.bind_pure _).symm
  | rotate rotation options => exact (Prog.bind_pure _).symm
  | goHome => exact (Prog.bind_pure _).symm
  | cancelAction => rfl
  | addLine usage line => exact convert_act fun _ => (Prog.bind_pure _).symm
  | addLines usage lines =>
      simp only [callback, msgCbAddLines, lines_toSltc]
      exact convert_act fun _ => (Prog.bind_pure _).symm
  | removeLine usage id => exact convert_act fun _ => (Prog.bind_pure _).symm
  | clearLines usage => exact convert_act fun _ => (Prog.bind_pure _).symm
  | moveLine usage line => exact convert_act fun _ => (Prog.bind_pure _).symm
  | moveLines usage lines =>
      simp only [callback, msgCbMoveLines, lines_toSltc]
      exact convert_act fun _ => (Prog.bind_pure _).symm

end Callbacks

/-! ## Runs -/

abbrev Log (Flt Dbl Scan : Type) := List ((o : Op Flt Dbl Scan) × Ret o)

/-- The calls of the platform among what was done. -/
def calls (log : Log Flt Dbl Scan) : List (RobotCall Flt Dbl Scan) :=
  log.filterMap fun
    | ⟨.call c, _⟩ => some c
    | _ => none

section Runs

variable {R : Robot Flt Dbl Scan ρ} {s : State ρ} {log : Log Flt Dbl Scan}

theorem eval_call (s : State ρ) (log : Log Flt Dbl Scan) (c : RobotCall Flt Dbl Scan) :
    (call c).eval (Prog.logging (handler R)) (s, log) =
      ((R.call c s.robot).1, { s with robot := (R.call c s.robot).2 },
        log ++ [⟨.call c, (R.call c s.robot).1⟩]) := by
  change (ofExcept (R.call c s.robot).1 : CallbackM Flt Dbl Scan c.Reply).eval
    (Prog.logging (handler R)) ({ s with robot := (R.call c s.robot).2 },
      log ++ [⟨.call c, (R.call c s.robot).1⟩]) = _
  cases (R.call c s.robot).1 <;> rfl

theorem calls_append (log log' : Log Flt Dbl Scan) :
    calls (log ++ log') = calls log ++ calls log' :=
  List.filterMap_append

theorem eval_act (s : State ρ) (log : Log Flt Dbl Scan) (d : Demand Flt Dbl Scan) :
    let result := (act d).eval (Prog.logging (handler R)) (s, log)
    result.2.1 = (d.serve R s).2 ∧ calls result.2.2 = calls log ++ (d.serve R s).1 := by
  cases d with
  | call c =>
      simp only [act, Prog.eval_bind, eval_call]
      cases (R.call c s.robot).1 <;> exact ⟨rfl, calls_append log _⟩
  | cancelCurrent =>
      have hcall := eval_call (R := R) s log .getCurrentAction
      have hbind := Prog.eval_bind (Prog.logging (handler R))
        (call (.getCurrentAction : RobotCall Flt Dbl Scan)) cancelAction (s, log)
      simp only [act, msgCbCancelAction, Demand.serve]
      cases hcurrent : R.call .getCurrentAction s.robot with
      | mk reply robot =>
          rw [hcurrent] at hcall
          rw [hcall] at hbind
          cases reply with
          | error e =>
              rw [hbind]
              exact ⟨rfl, calls_append log _⟩
          | ok current =>
              rw [hbind]
              cases (current : Option ℕ) with
              | none => exact ⟨rfl, calls_append log _⟩
              | some action =>
                  have hcancel := eval_call (R := R) { s with robot := robot }
                    (log ++ [⟨.call .getCurrentAction, .ok (some action)⟩]) (.cancel action)
                  rw [List.append_assoc] at hcancel
                  exact ⟨congrArg (fun result => result.2.1) hcancel,
                    (congrArg (fun result => calls result.2.2) hcancel).trans
                      (calls_append log _)⟩
  | sync => exact ⟨rfl, calls_append log _⟩

/-- Neither a call asserts, nor does it access memory that is not its own. -/
def Robot.Tame (R : Robot Flt Dbl Scan ρ) : Prop :=
  ∀ c r e, (R.call c r).1 = .error e → e.isFault = false

theorem eval_act_error (hR : R.Tame) {d : Demand Flt Dbl Scan} {e : Exn}
    (h : ((act d).eval (Prog.logging (handler R)) (s, log)).1 = .error e) : e.isFault = false := by
  have hcall : ∀ (c : RobotCall Flt Dbl Scan) (s : State ρ) log e,
      ((call c).eval (Prog.logging (handler R)) (s, log)).1 = .error e → e.isFault = false := by
    intro c s log e he
    rw [eval_call] at he
    exact hR c _ e he
  cases d with
  | call c =>
      simp only [act, Prog.eval_bind, eval_call] at h
      cases hreply : (R.call c s.robot).1 with
      | ok r =>
          rw [hreply] at h
          cases h
      | error e' =>
          rw [hreply] at h
          cases h
          exact hR c _ e hreply
  | cancelCurrent =>
      have hbind := Prog.eval_bind (Prog.logging (handler R))
        (call (.getCurrentAction : RobotCall Flt Dbl Scan)) cancelAction (s, log)
      rw [eval_call] at hbind
      simp only [act, msgCbCancelAction] at h
      rw [hbind] at h
      cases hreply : (R.call .getCurrentAction s.robot).1 with
      | ok current =>
          rw [hreply] at h
          cases (current : Option ℕ) with
          | none => cases h
          | some action => exact hcall _ _ _ e h
      | error e' =>
          rw [hreply] at h
          cases h
          exact hR _ _ e hreply
  | sync => cases h

section Serve

variable [Zero Flt] [Zero Dbl] [Inhabited Dbl] (sdk : Sdk Flt Dbl Scan)

/-- One message, without messages. -/
def serveRequest (R : Robot Flt Dbl Scan ρ) (request : Request Flt Dbl) (s : State ρ) :
    List (RobotCall Flt Dbl Scan) × State ρ :=
  let s' := { s with robot := (R.connected s.robot).2 }
  if (R.connected s.robot).1 then
    match demand sdk request with
    | .ok d => d.serve R s'
    | .error _ => ([], s')
  else ([], s')

def serveRequests (R : Robot Flt Dbl Scan ρ) : List (Request Flt Dbl) → State ρ →
    List (RobotCall Flt Dbl Scan) × State ρ
  | [], s => ([], s)
  | request :: requests, s =>
      let served := serveRequest sdk R request s
      let rest := serveRequests R requests served.2
      (served.1 ++ rest.1, rest.2)

omit [Zero Flt] [Inhabited Dbl] in
theorem demand_error {request : Request Flt Dbl} {e : Exn} (h : demand sdk request = .error e) :
    e.isStd = true := by
  have hkind : ∀ {kind : MapKindMsg} {f : MapKind → RobotCall Flt Dbl Scan},
      ofKind kind f = .error e → e.isStd = true := by
    intro kind f h
    simp only [ofKind, mapKind] at h
    split at h <;> cases h
    rfl
  have husage : ∀ {usage : ArtifactUsageMsg} {f : ArtifactUsage → RobotCall Flt Dbl Scan},
      ofUsage usage f = .error e → e.isStd = true := by
    intro usage f h
    simp only [ofUsage, artifactUsage] at h
    split at h <;> cases h
    rfl
  cases request with
  | clearMap kind => exact hkind h
  | setMapUpdate enabled kind => exact hkind h
  | addLine usage line => exact husage h
  | addLines usage lines => exact husage h
  | removeLine usage id => exact husage h
  | clearLines usage => exact husage h
  | moveLine usage line => exact husage h
  | moveLines usage lines => exact husage h
  | _ => cases h

omit [Zero Flt] [Zero Dbl] [Inhabited Dbl] in
/-- Whatever a callback throws is logged, and nothing else happens. -/
theorem eval_caught (s : State ρ) (log : Log Flt Dbl Scan) (p : CallbackM Flt Dbl Scan Unit) :
    let plain := p.eval (Prog.logging (handler R)) (s, log)
    let caught := (performIfConnected p true).eval (Prog.logging (handler R)) (s, log)
    caught.2.1 = plain.2.1 ∧ calls caught.2.2 = calls plain.2.2 ∧
      ((∀ e, plain.1 = .error e → e.isFault = false) → caught.1 = .ok ()) := by
  simp only [performIfConnected, Prog.eval_tryCatch]
  cases p.eval (Prog.logging (handler R)) (s, log) with
  | mk result after =>
      cases result with
      | ok u => exact ⟨rfl, rfl, fun _ => rfl⟩
      | error e =>
          have hlog : ∀ r, calls (after.2 ++ [⟨.rclcppError r, ()⟩]) = calls after.2 := by
            intro r
            rw [calls_append]
            exact List.append_nil _
          dsimp only
          split_ifs with hstd hfault
          · exact ⟨rfl, hlog _, fun _ => rfl⟩
          · exact ⟨rfl, rfl, fun h => absurd (h e rfl) (by simp [hfault])⟩
          · exact ⟨rfl, hlog _, fun _ => rfl⟩

theorem handleRequest_serves (request : Request Flt Dbl) :
    let handled := handleRequest sdk R request s
    handled.2.1 = (serveRequest sdk R request s).2 ∧
      calls handled.2.2 = (serveRequest sdk R request s).1 ∧ (R.Tame → handled.1 = .ok ()) := by
  have hwrapper : handleRequest sdk R request s =
      (performIfConnected (callback sdk request) (R.connected s.robot).1).eval
        (Prog.logging (handler R)) ({ s with robot := (R.connected s.robot).2 },
          [⟨.safeGetSlamwarePlatform, (R.connected s.robot).1⟩]) := rfl
  rw [hwrapper, serveRequest]
  cases hconnected : (R.connected s.robot).1 with
  | false => exact ⟨rfl, rfl, fun _ => rfl⟩
  | true =>
      obtain ⟨hstate, hcalls, hresult⟩ := eval_caught (R := R)
        { s with robot := (R.connected s.robot).2 } [⟨.safeGetSlamwarePlatform, true⟩]
        (callback sdk request)
      simp only [hstate, hcalls, if_true]
      rw [callback_eq] at hresult ⊢
      cases hdemand : demand sdk request with
      | error e =>
          rw [hdemand] at hresult
          refine ⟨rfl, rfl, fun _ => hresult ?_⟩
          rintro e' ⟨⟩
          have hstd := demand_error sdk hdemand
          cases e <;> first | rfl | cases hstd
      | ok d =>
          rw [hdemand] at hresult
          obtain ⟨hstate', hcalls'⟩ := eval_act (R := R)
            { s with robot := (R.connected s.robot).2 } [⟨.safeGetSlamwarePlatform, true⟩] d
          exact ⟨hstate', hcalls', fun hR => hresult fun e he => eval_act_error hR he⟩

/-- The server serves the demands of its messages in order, and nothing else: the robot ends
where it would have ended with the demands alone, it has been given the same calls, and no
message stops the server unless the robot itself does. -/
theorem handleRequests_serve (R : Robot Flt Dbl Scan ρ) (requests : List (Request Flt Dbl))
    (s : State ρ) :
    let handled := handleRequests sdk R requests s
    handled.2.1 = (serveRequests sdk R requests s).2 ∧
      calls handled.2.2 = (serveRequests sdk R requests s).1 ∧
      (R.Tame → ∀ result ∈ handled.1, result = .ok ()) := by
  induction requests generalizing s with
  | nil => exact ⟨rfl, rfl, fun _ => nofun⟩
  | cons request requests ih =>
      obtain ⟨hstate, hcalls, hresult⟩ := handleRequest_serves sdk (R := R) (s := s) request
      obtain ⟨hstate', hcalls', hresult'⟩ := ih (handleRequest sdk R request s).2.1
      simp only [handleRequests, serveRequests, calls_append, hcalls]
      rw [← hstate]
      refine ⟨hstate', congrArg _ hcalls', fun hR => ?_⟩
      exact List.forall_mem_cons.mpr ⟨hresult hR, hresult' hR⟩

end Serve

end Runs

/-! ## A trial -/

def trialSdk : Sdk ℤ ℤ Unit where
  newMoveOptions := ⟨.free, 0, none, none, none, none⟩
  hasFlag flags flag := flags &&& flag ≠ 0
  newRotateActionOptions := ⟨none, false, false⟩
  newRecoverLocalizationOptions := ⟨none, none, none⟩
  toRotation q := ⟨q.z, 0, 0⟩
  toQuaternion r := ⟨0, 0, r.yaw, 1⟩
  getYaw q := q.z
  toDouble x := x

/-- It moves home, goes on with one action, and refuses everything else. -/
def trialCall : (c : RobotCall ℤ ℤ Unit) → Except Exn c.Reply
  | .goHome => .ok ()
  | .getCurrentAction => .ok (some 7 : Option ℕ)
  | .cancel _ => .ok ()
  | _ => .error (.runtimeError "operation fail")

def trialRobot : Robot ℤ ℤ Unit ℕ where
  connected r := (decide (r ≠ 3), r)
  call c r := (trialCall c, r + 1)

/-- After three calls the robot is not connected. -/
theorem handleRequests_serve_trial :
    let handled := handleRequests trialSdk trialRobot
      [.setMapUpdate true ⟨5⟩, .goHome, .syncMap, .cancelAction, .setMapLocalization true]
      ⟨false, 0⟩
    handled.2.1 = ⟨true, 3⟩ ∧ calls handled.2.2 = [.goHome, .getCurrentAction, .cancel 7] ∧
      ∀ result ∈ handled.1, result = .ok () := by
  obtain ⟨hstate, hcalls, hresults⟩ := handleRequests_serve trialSdk trialRobot
    [.setMapUpdate true ⟨5⟩, .goHome, .syncMap, .cancelAction, .setMapLocalization true] ⟨false, 0⟩
  refine ⟨hstate.trans rfl, hcalls.trans rfl, hresults ?_⟩
  intro c r e he
  cases c <;> cases he <;> rfl

end Ros2WsDemo.Requests

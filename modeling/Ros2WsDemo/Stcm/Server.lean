import Ros2WsDemo.Lib.Prog
import Ros2WsDemo.Rpos.Basic

/-!
# The map services

Two services move a whole map between a client and the robot, as the bytes of an
`stcm` file.  The server calls the platform for each of them and answers with a
response object; what the callback itself returns does not go into the response.
The robot and the process around it are a parameter, their failures included.
-/

namespace Ros2WsDemo.Stcm

open Effect

/-! ## Operations -/

/-- What a call can throw. -/
abbrev Exception := { e : Exn // e.isFault = false }

/-- The platform calls that take part in setting a map; `cancel` is that of the
action just read, `setMapUpdate` that of the explore map. -/
inductive PlatformCall (M P : Type) where
  | clearMap
  | getCurrentAction
  | cancel
  | setMapLocalization (localization : Bool)
  | setMapUpdate (update : Bool)
  | setCompositeMap (map : M) (pose : P)
  deriving DecidableEq, Repr

inductive Op (M P : Type) where
  | safeGetSlamwarePlatform
  | platform (call : PlatformCall M P)
  | getCompositeMap
  | allocate (size : ℕ)
  | requestSyncMap
  | rclcppError (format : String)
  | rclcppWarn (format : String)

abbrev Ret (M P : Type) : Op M P → Type
  | .safeGetSlamwarePlatform => Bool
  | .platform _ => Except Exception Bool
  | .getCompositeMap => Except Exception M
  | .allocate _ => Except Exception Unit
  | .requestSyncMap => Unit
  | .rclcppError _ => Unit
  | .rclcppWarn _ => Unit

/-- The answer to `getCurrentAction` is whether there is one, that to `cancel`
carries nothing. -/
structure Robot (M P ρ : Type) where
  connected : ρ → Bool × ρ
  call : PlatformCall M P → ρ → Except Exception Bool × ρ
  getCompositeMap : ρ → Except Exception M × ρ
  allocate : ℕ → ρ → Except Exception Unit × ρ

/-- The request flag is part of the work data, which may be missing. -/
structure State (ρ : Type) where
  syncMapRequested : Option Bool
  robot : ρ

namespace SyncGetStcm

structure Response where
  rawStcm : List UInt8 := []
  deriving DecidableEq, Repr

end SyncGetStcm

namespace SyncSetStcm

structure Request (RosPose : Type) where
  rawStcm : List UInt8
  robotPose : RosPose
  deriving DecidableEq, Repr

structure Response where
  deriving DecidableEq, Repr

end SyncSetStcm

/-- `CompositeMapReader` and `CompositeMapWriter`, with the overloads that do not throw. -/
structure StcmFormat (M : Type) where
  loadStream : List UInt8 → Option M
  saveStream : M → Option (List UInt8)

section Model

variable {M P RosPose ρ : Type}

@[simp] def handler (R : Robot M P ρ) : (o : Op M P) → State ρ → Ret M P o × State ρ
  | .safeGetSlamwarePlatform, s =>
      ((R.connected s.robot).1, { s with robot := (R.connected s.robot).2 })
  | .platform c, s => ((R.call c s.robot).1, { s with robot := (R.call c s.robot).2 })
  | .getCompositeMap, s =>
      ((R.getCompositeMap s.robot).1, { s with robot := (R.getCompositeMap s.robot).2 })
  | .allocate size, s =>
      ((R.allocate size s.robot).1, { s with robot := (R.allocate size s.robot).2 })
  | .requestSyncMap, s => ((), { s with syncMapRequested := s.syncMapRequested.map fun _ => true })
  | .rclcppError _, s => ((), s)
  | .rclcppWarn _, s => ((), s)

abbrev ServerM (M P : Type) := Prog (Ret M P) Exception

def platform (c : PlatformCall M P) : ServerM M P Bool :=
  Prog.perform (Op.platform c) >>= fun r : Except Exception Bool => ofExcept r

def getCompositeMap : ServerM M P M :=
  Prog.perform (Op.getCompositeMap) >>= fun r : Except Exception M => ofExcept r

def allocate (size : ℕ) : ServerM M P Unit :=
  Prog.perform (Op.allocate size) >>= fun r : Except Exception Unit => ofExcept r

def safeGetSlamwarePlatform : ServerM M P Bool := Prog.perform Op.safeGetSlamwarePlatform

def requestSyncMap : ServerM M P Unit := Prog.perform Op.requestSyncMap

def rclcppError (format : String) : ServerM M P Unit := Prog.perform (Op.rclcppError format)

def rclcppWarn (format : String) : ServerM M P Unit := Prog.perform (Op.rclcppWarn format)

/-! ## The callbacks

A callback returns its response object along with its own result. -/

/-- The response is written after the last call that can throw, so a callback
that throws leaves it as it was. -/
def srvCbSyncGetStcm (format : StcmFormat M) (resp : SyncGetStcm.Response) :
    ServerM M P (Bool × SyncGetStcm.Response) := do
  -- the constructor of `MemoryWriteStream`
  allocate (1024 * 1024 * 8)
  let saved : Option (List UInt8) ← Prog.tryCatch
    (do
      let cmpstMap ← getCompositeMap
      match format.saveStream cmpstMap with
      | none => do
          rclcppError "srvCbSyncGetStcm_(), saveStream(), %s."
          return none
      | some bytes => return some bytes)
    fun e =>
      if e.1.isStd then do
        rclcppWarn "srvCbSyncGetStcm_(), exception: %s."
        return none
      else throw e
  match saved with
  | none => return (false, resp)
  | some bytes => do
      allocate bytes.length
      return (true, { resp with rawStcm := bytes })

/-- What `srvCbSyncSetStcm_` does within `try`. -/
def uploadCompositeMap (map : M) (robotPose : P) : ServerM M P Unit := do
  let _ ← platform .clearMap
  let tAct ← platform .getCurrentAction
  if tAct then
    let _ ← platform .cancel
  let _ ← platform (.setMapLocalization false)
  let _ ← platform (.setMapUpdate false)
  let _ ← platform (.setCompositeMap map robotPose)
  let _ ← platform (.setMapLocalization true)

def srvCbSyncSetStcm (format : StcmFormat M) (rosMsgToSltc : RosPose → P)
    (req : SyncSetStcm.Request RosPose) (resp : SyncSetStcm.Response) :
    ServerM M P (Bool × SyncSetStcm.Response) := do
  let robotPose := rosMsgToSltc req.robotPose
  match format.loadStream req.rawStcm with
  | none => do
      rclcppError "srvCbSyncSetStcm_(), loadStream(), %s."
      return (false, resp)
  | some spSmpstMap => do
      let uploaded : Bool ← Prog.tryCatch
        (do
          uploadCompositeMap spSmpstMap robotPose
          return true)
        fun e =>
          if e.1.isStd then do
            rclcppWarn "srvCbSyncSetStcm_(), exception: %s."
            return false
          else throw e
      if !uploaded then
        return (false, resp)
      requestSyncMap
      return (true, resp)

def srvCbWrapperFun {Resp : Type} (mfpCbPerform : Resp → ServerM M P (Bool × Resp)) (resp : Resp) :
    ServerM M P (Bool × Resp) := do
  let pltfm ← safeGetSlamwarePlatform
  if !pltfm then
    rclcppError "process request: %s, not connected."
    return (false, resp)
  Prog.tryCatch (mfpCbPerform resp) fun e => do
    rclcppError (if e.1.isStd then "process request: %s, exception: %s."
      else "process request: %s, unknown exception.")
    return (false, resp)

/-! ## Runs of platform calls -/

namespace Robot

variable (R : Robot M P ρ)

def after (cs : List (PlatformCall M P)) (s : ρ) : ρ := cs.foldl (fun s c => (R.call c s).2) s

/-- None of the calls throws. -/
def Runs : List (PlatformCall M P) → ρ → Prop
  | [], _ => True
  | c :: cs, s => (R.call c s).1.isOk ∧ Runs cs (R.call c s).2

/-- There is an action to cancel once the map is cleared. -/
def hasAction (s : ρ) : Bool :=
  match (R.call .getCurrentAction (R.call .clearMap s).2).1 with
  | .ok tAct => tAct
  | .error _ => false

end Robot

/-- The calls that setting a map makes, in their order. -/
def uploadCalls (tAct : Bool) (map : M) (robotPose : P) : List (PlatformCall M P) :=
  [.clearMap, .getCurrentAction] ++ (if tAct then [.cancel] else []) ++
    [.setMapLocalization false, .setMapUpdate false, .setCompositeMap map robotPose,
      .setMapLocalization true]

def performAll : List (PlatformCall M P) → ServerM M P Unit
  | [] => pure ()
  | c :: cs => do
      let _ ← platform c
      performAll cs

section Spec

variable {R : Robot M P ρ} {s : State ρ}

@[simp] theorem eval_platform (c : PlatformCall M P) :
    (platform c).eval (handler R) s = ((R.call c s.robot).1, ⟨s.syncMapRequested,
      (R.call c s.robot).2⟩) := by
  cases h : R.call c s.robot with
  | mk r robot => cases r <;> simp [platform, h]

@[simp] theorem eval_getCompositeMap :
    (getCompositeMap : ServerM M P M).eval (handler R) s =
      ((R.getCompositeMap s.robot).1, ⟨s.syncMapRequested, (R.getCompositeMap s.robot).2⟩) := by
  cases h : R.getCompositeMap s.robot with
  | mk r robot => cases r <;> simp [getCompositeMap, h]

@[simp] theorem eval_allocate (size : ℕ) :
    (allocate size : ServerM M P Unit).eval (handler R) s =
      ((R.allocate size s.robot).1, ⟨s.syncMapRequested, (R.allocate size s.robot).2⟩) := by
  cases h : R.allocate size s.robot with
  | mk r robot => cases r <;> simp [allocate, h]

theorem eval_uploadCompositeMap (map : M) (robotPose : P) :
    (uploadCompositeMap map robotPose).eval (handler R) s =
      (performAll (uploadCalls (R.hasAction s.robot) map robotPose)).eval (handler R) s := by
  cases hclear : (R.call .clearMap s.robot).1 with
  | error e => simp [uploadCompositeMap, uploadCalls, performAll, hclear]
  | ok cleared =>
      cases haction : (R.call .getCurrentAction (R.call .clearMap s.robot).2).1 with
      | error e => simp [uploadCompositeMap, uploadCalls, performAll, hclear, haction]
      | ok tAct =>
          cases tAct <;>
            simp [uploadCompositeMap, uploadCalls, performAll, hclear, haction, Robot.hasAction]

/-- A run of calls ends at the first that throws. -/
theorem eval_performAll (cs : List (PlatformCall M P)) :
    (R.Runs cs s.robot ∧ (performAll cs).eval (handler R) s =
        (.ok (), ⟨s.syncMapRequested, R.after cs s.robot⟩)) ∨
      ∃ done c rest e, cs = done ++ c :: rest ∧ R.Runs done s.robot ∧
        (R.call c (R.after done s.robot)).1 = .error e ∧
        (performAll cs).eval (handler R) s =
          (.error e, ⟨s.syncMapRequested, R.after (done ++ [c]) s.robot⟩) := by
  induction cs generalizing s with
  | nil => exact Or.inl ⟨trivial, rfl⟩
  | cons c cs ih =>
      cases hcall : (R.call c s.robot).1 with
      | error e =>
          refine Or.inr ⟨[], c, cs, e, rfl, trivial, hcall, ?_⟩
          simp [performAll, hcall, Robot.after]
      | ok answer =>
          have hhead : (R.call c s.robot).1.isOk = true := by rw [hcall]; rfl
          rcases ih (s := ⟨s.syncMapRequested, (R.call c s.robot).2⟩) with
            ⟨hruns, heval⟩ | ⟨done, c', rest, e, hcs, hruns, herror, heval⟩
          · refine Or.inl ⟨⟨hhead, hruns⟩, ?_⟩
            simp [performAll, hcall, heval, Robot.after]
          · refine Or.inr ⟨c :: done, c', rest, e, by rw [hcs]; rfl, ⟨hhead, hruns⟩, herror, ?_⟩
            simp [performAll, hcall, heval, Robot.after]

end Spec

end Model

end Ros2WsDemo.Stcm

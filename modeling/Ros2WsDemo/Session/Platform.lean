import Ros2WsDemo.Lib.Trace
import Ros2WsDemo.Session.WorkThread

/-!
# The platform handle of the work thread

The work thread with the handle of the platform: who connects it, who holds it,
which worker is given it.  What a worker does is of no interest here; its virtual
functions are operations that may return or throw anything.  A platform is a number.
-/

namespace Ros2WsDemo.PlatformSession

open Effect WorkThread

/-! ## Operations -/

/-- The worker operations carry the platform of the session; `reinitWorkLoopDone`
does nothing and marks how `reinitWorkLoop_` has returned. -/
inductive Op where
  | shouldContinueRunning
  | rclcppOk
  | roughSleepWait
  | sleepUntilNextTrigger
  | getParameter (name : String)
  | safeIsSlamwarePlatformConnected
  | connectSlamwarePlatform
  | safeSetSlamwarePlatform (pltfm : ℕ)
  | safeGetSlamwarePlatform
  | safeReleaseSlamwarePlatform
  | resetOnWorkLoopBegin (i pltfm : ℕ)
  | isWorkLoopInitOk (i : ℕ)
  | reinitWorkLoop (i pltfm : ℕ)
  | reinitWorkLoopDone (pltfm : ℕ) (ok : Bool)
  | checkToPerform (i : ℕ)
  | doPerform (i pltfm : ℕ)
  deriving DecidableEq

/-- A release answers with the platform it gave up, `checkToPerform` with whether
the worker is due. -/
abbrev Ret : Op → Type
  | .shouldContinueRunning => Bool
  | .rclcppOk => Bool
  | .getParameter _ => Except Exn Unit
  | .safeIsSlamwarePlatformConnected => Bool
  | .connectSlamwarePlatform => Option ℕ
  | .safeGetSlamwarePlatform => Option ℕ
  | .safeReleaseSlamwarePlatform => Option ℕ
  | .resetOnWorkLoopBegin _ _ => Except Exn Unit
  | .isWorkLoopInitOk _ => Bool
  | .reinitWorkLoop _ _ => Except Exn Bool
  | .checkToPerform _ => Bool
  | .doPerform _ _ => Except Exn Unit
  | _ => Unit

/-- The member `slamwarePltfm_`. -/
abbrev State := Option ℕ

def handle (slamwarePltfm : State) : (o : Op) → Ret o → State → Prop
  | .safeIsSlamwarePlatformConnected, r, s' => r = slamwarePltfm.isSome ∧ s' = slamwarePltfm
  | .safeGetSlamwarePlatform, r, s' => r = slamwarePltfm ∧ s' = slamwarePltfm
  | .safeSetSlamwarePlatform pltfm, _, s' => s' = some pltfm
  | .safeReleaseSlamwarePlatform, r, s' => r = slamwarePltfm ∧ s' = none
  | _, _, s' => s' = slamwarePltfm

/-- After the start no other thread sets or releases the platform. -/
def system : System Ret Empty State where
  handle := handle
  act := fun _ a _ => a.elim

abbrev ServerM := Prog Ret Exn

abbrev ServerEvent := Event Ret Empty Empty

def perform (o : Op) : ServerM (Ret o) := Prog.perform o

def getParameter (name : String) : ServerM Unit :=
  perform (.getParameter name) >>= fun r : Except Exn Unit => ofExcept r

def resetOnWorkLoopBegin (i pltfm : ℕ) : ServerM Unit :=
  perform (.resetOnWorkLoopBegin i pltfm) >>= fun r : Except Exn Unit => ofExcept r

def workerReinitWorkLoop (i pltfm : ℕ) : ServerM Bool :=
  perform (.reinitWorkLoop i pltfm) >>= fun r : Except Exn Bool => ofExcept r

def doPerform (i pltfm : ℕ) : ServerM Unit :=
  perform (.doPerform i pltfm) >>= fun r : Except Exn Unit => ofExcept r

/-! ## The functions of the source -/

def loopTryConnectToSlamwarePlatform : ℕ → ServerM Unit
  | 0 => return
  | tries + 1 => do
      if !(← perform .shouldContinueRunning) then
        return
      getParameter "ip_address"
      getParameter "robot_port"
      match ← perform .connectSlamwarePlatform with
      | some pltfm => perform (.safeSetSlamwarePlatform pltfm)
      | none =>
          getParameter "reconn_wait_ms"
          getParameter "reconn_wait_ms"
          perform .roughSleepWait
          loopTryConnectToSlamwarePlatform tries

def checkToPerform (i pltfm : ℕ) : ServerM Unit := do
  if ← perform (.checkToPerform i) then
    doPerform i pltfm

/-- A worker is its position in `serverWorkers_`. -/
def loopCalls : LoopCalls Ret ℕ ℕ Unit where
  shouldContinueRunning := perform .shouldContinueRunning
  beginRound := return ()
  checkToPerform := checkToPerform
  minNextTriggerTimepoint _ _ := return ()
  sleepUntil _ := perform .sleepUntilNextTrigger

/-- The server tries at most `tries` times to connect. -/
def threadCalls (tries : ℕ) : ThreadCalls Ret ℕ ℕ Unit where
  toLoopCalls := loopCalls
  rclcppOk := perform .rclcppOk
  roughSleepWait := perform .roughSleepWait
  safeIsSlamwarePlatformConnected := perform .safeIsSlamwarePlatformConnected
  loopTryConnectToSlamwarePlatform := loopTryConnectToSlamwarePlatform tries
  safeGetSlamwarePlatform := perform .safeGetSlamwarePlatform
  safeReleaseSlamwarePlatform := do
    let _ ← perform .safeReleaseSlamwarePlatform
  resetOnWorkLoopBegin := resetOnWorkLoopBegin
  isWorkLoopInitOk i := perform (.isWorkLoopInitOk i)
  reinitWorkLoop := workerReinitWorkLoop
  reinitWorkLoopDone pltfm ok := perform (.reinitWorkLoopDone pltfm ok)

abbrev ServerConfig := Config Ret Empty Empty State Exn Unit

/-- The thread function has no other jobs. -/
def noJobs : Empty → ServerM Unit := Empty.elim

/-- The thread starts with the platform that `init_` has connected, if any. -/
def ServerConfig.init (cntWorkers tries rounds sessions : ℕ) (slamwarePltfm : State) :
    ServerConfig :=
  ⟨workThreadFun (threadCalls tries) (List.range cntWorkers) rounds sessions, slamwarePltfm, []⟩

end Ros2WsDemo.PlatformSession

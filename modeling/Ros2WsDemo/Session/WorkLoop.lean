import Ros2WsDemo.Session.WorkThread

/-!
# The workers and their initialization

The work thread with what the workers do in `reinitWorkLoop`.  A worker is addressed
by its position in `serverWorkers_`.  The two operations around the virtual call of
`reinitWorkLoop` do nothing; they mark in the trace where the call begins and how
it ends.
-/

namespace Ros2WsDemo.WorkLoop

open Effect WorkThread

/-! ## Operations -/

inductive WorkerKind where
  | robotDeviceInfo
  | odometry
  | robotPose
  | exploreMapUpdate
  | exploreMapPublish
  | laserScan
  | basicSensorsInfo
  | basicSensorsValues
  | planPath
  | robotBasicState
  | artifactLines
  | readEvents
  | imuRawData
  | rosConnect
  deriving DecidableEq, Repr

/-- The platform calls of which only the outcome matters here. -/
inductive PlatformCall where
  | getDeviceInfo
  | getSDPVersion
  | getSDKVersion
  | getOdoPose
  | getSpeed
  | getLines
  | getImuRawData
  deriving DecidableEq, Repr

inductive Feature where
  | odoPose
  | speed
  | supported
  deriving DecidableEq, Repr

inductive Op where
  | safeIsSlamwarePlatformConnected
  | loopTryConnectToSlamwarePlatform
  | safeGetSlamwarePlatform
  | safeReleaseSlamwarePlatform
  | shouldContinueRunning
  | rclcppOk
  | roughSleepWait
  | logReinitWorkLoop (ok : Bool)
  | resetOnWorkLoopBegin (i : ℕ)
  | enterReinitWorkLoop (i : ℕ)
  | leaveReinitWorkLoop (i : ℕ) (result : Option Bool)
  | readIsWorkLoopInitOk (i : ℕ)
  | writeIsWorkLoopInitOk (i : ℕ) (b : Bool)
  | readFeatureSupported (i : ℕ) (feature : Feature)
  | writeFeatureSupported (i : ℕ) (feature : Feature) (b : Bool)
  | requestReinitMap (i : ℕ)
  | callPlatform (i : ℕ) (call : PlatformCall)
  | createSystemEventProvider (i : ℕ)
  | createPublisher (i : ℕ)
  | publish (i : ℕ)
  | getPubAccumulateOdometry
  | checkToPerform (i : ℕ)
  deriving DecidableEq

def Ret : Op → Type
  | .safeIsSlamwarePlatformConnected => Bool
  | .safeGetSlamwarePlatform => Bool
  | .shouldContinueRunning => Bool
  | .rclcppOk => Bool
  | .readIsWorkLoopInitOk _ => Bool
  | .readFeatureSupported _ _ => Bool
  | .callPlatform _ _ => Except Exn Unit
  | .createSystemEventProvider _ => Except Exn Bool
  | .createPublisher _ => Except Exn Unit
  | .publish _ => Except Exn Unit
  | .getPubAccumulateOdometry => Bool
  | .checkToPerform _ => Except Exn Unit
  | _ => Unit

structure State where
  connected : Bool
  isWorkLoopInitOk : ℕ → Bool
  isFeatureSupported : ℕ → Feature → Bool
  shouldReinitMap : ℕ → Bool

def State.init : State where
  connected := false
  isWorkLoopInitOk _ := false
  isFeatureSupported _ _ := false
  shouldReinitMap _ := true

def State.setInitOk (s : State) (i : ℕ) (b : Bool) : State :=
  { s with isWorkLoopInitOk := Function.update s.isWorkLoopInitOk i b }

/-- Only the members of the server and its workers are decided by the state. -/
def handle (s : State) : (o : Op) → Ret o → State → Prop
  | .safeIsSlamwarePlatformConnected, r, s' => r = s.connected ∧ s' = s
  | .safeGetSlamwarePlatform, r, s' => r = s.connected ∧ s' = s
  | .loopTryConnectToSlamwarePlatform, _, s' => ∃ b, s' = { s with connected := b }
  | .safeReleaseSlamwarePlatform, _, s' => s' = { s with connected := false }
  | .resetOnWorkLoopBegin i, _, s' => s' = s.setInitOk i false
  | .readIsWorkLoopInitOk i, r, s' => r = s.isWorkLoopInitOk i ∧ s' = s
  | .writeIsWorkLoopInitOk i b, _, s' => s' = s.setInitOk i b
  | .readFeatureSupported i feature, r, s' => r = s.isFeatureSupported i feature ∧ s' = s
  | .writeFeatureSupported i feature b, _, s' => s' = { s with
      isFeatureSupported := fun j f =>
        if j = i ∧ f = feature then b else s.isFeatureSupported j f }
  | .requestReinitMap i, _, s' => s' = { s with
      shouldReinitMap := Function.update s.shouldReinitMap i true }
  | _, _, s' => s' = s

/-- No other thread touches these members. -/
def system : System Ret Empty State where
  handle := handle
  act := fun _ a _ => a.elim

abbrev ServerM := Prog Ret Exn

def perform (o : Op) : ServerM (Ret o) := Prog.perform o

def callPlatform (i : ℕ) (call : PlatformCall) : ServerM Unit :=
  perform (.callPlatform i call) >>= fun r : Except Exn Unit => ofExcept r

def createPublisher (i : ℕ) : ServerM Unit :=
  perform (.createPublisher i) >>= fun r : Except Exn Unit => ofExcept r

def publish (i : ℕ) : ServerM Unit :=
  perform (.publish i) >>= fun r : Except Exn Unit => ofExcept r

def createSystemEventProvider (i : ℕ) : ServerM Bool :=
  perform (.createSystemEventProvider i) >>= fun r : Except Exn Bool => ofExcept r

def checkToPerform (i : ℕ) : ServerM Unit :=
  perform (.checkToPerform i) >>= fun r : Except Exn Unit => ofExcept r

def writeIsWorkLoopInitOk (i : ℕ) (b : Bool) : ServerM Unit := perform (.writeIsWorkLoopInitOk i b)

def readIsWorkLoopInitOk (i : ℕ) : ServerM Bool := perform (.readIsWorkLoopInitOk i)

def writeFeatureSupported (i : ℕ) (feature : Feature) (b : Bool) : ServerM Unit :=
  perform (.writeFeatureSupported i feature b)

def shouldContinueRunning : ServerM Bool := perform .shouldContinueRunning

/-! ## The workers -/

namespace ServerWorkerBase

def resetOnWorkLoopBegin (i : ℕ) : ServerM Unit := perform (.resetOnWorkLoopBegin i)

def reinitWorkLoop (i : ℕ) : ServerM Bool := do
  writeIsWorkLoopInitOk i true
  readIsWorkLoopInitOk i

end ServerWorkerBase

def ServerRobotDeviceInfoWorker.reinitWorkLoop (i : ℕ) : ServerM Bool := do
  if !(← ServerWorkerBase.reinitWorkLoop i) then
    return false
  writeIsWorkLoopInitOk i false
  callPlatform i .getDeviceInfo
  callPlatform i .getSDPVersion
  callPlatform i .getSDKVersion
  publish i
  writeIsWorkLoopInitOk i true
  readIsWorkLoopInitOk i

/-- Find out whether the platform supports a feature.  Only
`UnsupportedCommandException` is caught. -/
def probeFeature (i : ℕ) (call : PlatformCall) (feature : Feature) : ServerM Unit :=
  Prog.tryCatch
    (do
      callPlatform i call
      writeFeatureSupported i feature true)
    fun
      | .unsupportedCommand => writeFeatureSupported i feature false
      | e => throw e

def ServerOdometryWorker.reinitWorkLoop (i : ℕ) : ServerM Bool := do
  if !(← ServerWorkerBase.reinitWorkLoop i) then
    return false
  let pubAccumulateOdometry : Bool ← perform .getPubAccumulateOdometry
  if pubAccumulateOdometry then
    probeFeature i .getOdoPose .odoPose
  probeFeature i .getSpeed .speed
  writeIsWorkLoopInitOk i true
  readIsWorkLoopInitOk i

def ServerExploreMapUpdateWorker.reinitWorkLoop (i : ℕ) : ServerM Bool := do
  if !(← ServerWorkerBase.reinitWorkLoop i) then
    return false
  writeIsWorkLoopInitOk i false
  let _ : Unit ← perform (.requestReinitMap i)
  writeIsWorkLoopInitOk i true
  readIsWorkLoopInitOk i

namespace ServerArtifactLinesWorker

def resetOnWorkLoopBegin (i : ℕ) : ServerM Unit := do
  createPublisher i
  writeFeatureSupported i .supported false
  ServerWorkerBase.resetOnWorkLoopBegin i

def reinitWorkLoop (i : ℕ) : ServerM Bool := do
  if !(← ServerWorkerBase.reinitWorkLoop i) then
    return false
  writeIsWorkLoopInitOk i false
  probeFeature i .getLines .supported
  let isFeatureSupported : Bool ← perform (.readFeatureSupported i .supported)
  if isFeatureSupported then
    createPublisher i
    publish i
  writeIsWorkLoopInitOk i true
  readIsWorkLoopInitOk i

end ServerArtifactLinesWorker

def ServerReadEventsWorker.reinitWorkLoop (i : ℕ) : ServerM Bool := do
  if !(← ServerWorkerBase.reinitWorkLoop i) then
    return false
  writeIsWorkLoopInitOk i false
  let systemEventProvider ← createSystemEventProvider i
  if !systemEventProvider then
    return ← readIsWorkLoopInitOk i
  writeIsWorkLoopInitOk i true
  readIsWorkLoopInitOk i

def ServerImuRawDataWorker.reinitWorkLoop (i : ℕ) : ServerM Bool := do
  if !(← ServerWorkerBase.reinitWorkLoop i) then
    return false
  probeFeature i .getImuRawData .supported
  writeIsWorkLoopInitOk i true
  readIsWorkLoopInitOk i

def RosConnectWorker.reinitWorkLoop (i : ℕ) : ServerM Bool := do
  if !(← ServerWorkerBase.reinitWorkLoop i) then
    return false
  writeIsWorkLoopInitOk i true
  readIsWorkLoopInitOk i

namespace WorkerKind

def resetOnWorkLoopBegin (i : ℕ) : WorkerKind → ServerM Unit
  | artifactLines => ServerArtifactLinesWorker.resetOnWorkLoopBegin i
  | _ => ServerWorkerBase.resetOnWorkLoopBegin i

/-- The most derived `reinitWorkLoop`. -/
def reinitWorkLoop (i : ℕ) : WorkerKind → ServerM Bool
  | robotDeviceInfo => ServerRobotDeviceInfoWorker.reinitWorkLoop i
  | odometry => ServerOdometryWorker.reinitWorkLoop i
  | exploreMapUpdate => ServerExploreMapUpdateWorker.reinitWorkLoop i
  | artifactLines => ServerArtifactLinesWorker.reinitWorkLoop i
  | readEvents => ServerReadEventsWorker.reinitWorkLoop i
  | imuRawData => ServerImuRawDataWorker.reinitWorkLoop i
  | rosConnect => RosConnectWorker.reinitWorkLoop i
  | _ => ServerWorkerBase.reinitWorkLoop i

end WorkerKind

/-! ## The server -/

/-- The virtual call, with its marks. -/
def callReinitWorkLoop (i : ℕ) (svrWk : WorkerKind) : ServerM Bool := do
  let _ : Unit ← perform (.enterReinitWorkLoop i)
  let ok ← Prog.tryCatch (svrWk.reinitWorkLoop i) fun e => do
    let _ : Unit ← perform (.leaveReinitWorkLoop i none)
    throw e
  let _ : Unit ← perform (.leaveReinitWorkLoop i (some ok))
  return ok

/-- Every worker, with its position in `serverWorkers_`. -/
abbrev Worker := WorkerKind × ℕ

/-- Time does not matter here. -/
def loopCalls : LoopCalls Ret Worker Unit Unit where
  shouldContinueRunning := shouldContinueRunning
  beginRound := return ()
  checkToPerform | (_, i), _ => checkToPerform i
  minNextTriggerTimepoint _ _ := return ()
  sleepUntil _ := return ()

/-- Of the platform only whether there is one. -/
def safeGetSlamwarePlatform : ServerM (Option Unit) := do
  let pltfm : Bool ← perform .safeGetSlamwarePlatform
  return if pltfm then some () else none

def threadCalls : ThreadCalls Ret Worker Unit Unit where
  toLoopCalls := loopCalls
  rclcppOk := perform .rclcppOk
  roughSleepWait := perform .roughSleepWait
  safeIsSlamwarePlatformConnected := perform .safeIsSlamwarePlatformConnected
  loopTryConnectToSlamwarePlatform := perform .loopTryConnectToSlamwarePlatform
  safeGetSlamwarePlatform := safeGetSlamwarePlatform
  safeReleaseSlamwarePlatform := perform .safeReleaseSlamwarePlatform
  resetOnWorkLoopBegin | (svrWk, i), _ => svrWk.resetOnWorkLoopBegin i
  isWorkLoopInitOk | (_, i) => readIsWorkLoopInitOk i
  reinitWorkLoop | (svrWk, i), _ => callReinitWorkLoop i svrWk
  reinitWorkLoopDone _ ok := perform (.logReinitWorkLoop ok)

abbrev ServerConfig := Config Ret Empty Empty State Exn Unit

abbrev ServerEvent := Event Ret Empty Empty

/-- The thread function has no other jobs. -/
def noJobs : Empty → ServerM Unit := Empty.elim

def ServerConfig.init (serverWorkers : List WorkerKind) (rounds sessions : ℕ) : ServerConfig :=
  ⟨workThreadFun threadCalls serverWorkers.zipIdx rounds sessions, State.init, []⟩

end Ros2WsDemo.WorkLoop

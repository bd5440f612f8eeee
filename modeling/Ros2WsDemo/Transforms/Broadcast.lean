import Mathlib.Algebra.Quaternion
import Ros2WsDemo.Convert.Messages
import Ros2WsDemo.Laser.Published
import Ros2WsDemo.Lib.Interleaving
import Ros2WsDemo.Lib.RigidTransform

/-!
# The workers that broadcast transforms

`ServerOdometryWorker`, `ServerRobotPoseWorker` and `ServerLaserScanWorker`, performed in any
order.  The state has the members of the workers; what they broadcast is in the trace.
Rotations are quaternions; how one is made from a yaw, or from a rotation of the platform, is
a parameter.
-/

namespace Ros2WsDemo

/-- What is broadcast of a pose. -/
def Pose.planar {K : Type} (pose : Pose K) : LaserPose K :=
  ⟨pose.location.x, pose.location.y, pose.rotation.yaw⟩

/-- `rpos::message::base::MotionRequest` -/
structure MotionRequest (K : Type) where
  vx : K
  vy : K
  omega : K

/-- `nav_msgs::msg::Odometry`, with what is written to its twist. -/
structure OdometryMsg (K : Type) where
  stamp : TimeMsg
  frameId : String
  pose : PoseMsg K
  twist : MotionRequest K

/-- `geometry_msgs::msg::PoseStamped` -/
structure PoseStampedMsg (K : Type) where
  stamp : TimeMsg
  frameId : String
  pose : PoseMsg K

namespace Transforms

open Effect

/-! ## Operations -/

/-- The members of the three workers, and the robot pose of the work data. -/
structure Members (K : Type) where
  isOdoPoseFeatureSupported : Bool
  isSpeedFeatureSupported : Bool
  latestLidarStartTimestamp : UInt64
  robotPose : Pose K

/-- The parameters the workers read. -/
structure Params where
  pubAccumulateOdometry : Bool
  fixedOdomMapTf : Bool
  odomFrame : String
  robotFrame : String
  robotPoseFrame : String
  laser : ServerLaserScanWorker.Params

abbrev Transform (K : Type) [Field K] := TransformStamped K (Quaternion K)

inductive Op (K : Type) [Field K] where
  | getOdoPose
  | getPose
  | getSpeed
  | getLaserScan
  | getRawLaserScan
  | now
  | members
  | setMembers (m : Members K)
  | sendTransform (t : Transform K)
  | publishOdometry (msg : OdometryMsg K)
  | publishRobotPose (msg : PoseStampedMsg K)
  | publishLaserScan (msg : LaserScanMsg K)

section Model

variable {K : Type} [Field K]

abbrev Ret : Op K → Type
  | .getOdoPose | .getPose => Except Exn (Pose K)
  | .getSpeed => Except Exn (MotionRequest K)
  | .getLaserScan | .getRawLaserScan => Except Exn (SystemScan K)
  | .now => Int64
  | .members => Members K
  | _ => Unit

abbrev WorkerM (K : Type) [Field K] := Prog (Ret (K := K)) Exn

def perform (o : Op K) : WorkerM K (Ret o) := Prog.perform o

def getOdoPose : WorkerM K (Pose K) :=
  perform .getOdoPose >>= fun r : Except Exn (Pose K) => ofExcept r

def getPose : WorkerM K (Pose K) :=
  perform .getPose >>= fun r : Except Exn (Pose K) => ofExcept r

def getSpeed : WorkerM K (MotionRequest K) :=
  perform .getSpeed >>= fun r : Except Exn (MotionRequest K) => ofExcept r

def getLaserScan : WorkerM K (SystemScan K) :=
  perform .getLaserScan >>= fun r : Except Exn (SystemScan K) => ofExcept r

def getRawLaserScan : WorkerM K (SystemScan K) :=
  perform .getRawLaserScan >>= fun r : Except Exn (SystemScan K) => ofExcept r

/-! ## Transforms -/

abbrev Motion (K : Type) [Field K] := RigidTransform (Quaternion K)

def motion (t : Transform K) : Motion K := ⟨⟨0, t.x, t.y, t.z⟩, t.rotation⟩

/-- The transform without translation and rotation. -/
def fixedTransform (stamp : TimeMsg) (frameId childFrameId : String) : Transform K where
  stamp := stamp
  frameId := frameId
  childFrameId := childFrameId
  x := 0
  y := 0
  z := 0
  rotation := 1

variable (quaternionOfYaw : K → Quaternion K)

def planarTransform (stamp : TimeMsg) (frameId childFrameId : String) (pose : LaserPose K) :
    Transform K where
  stamp := stamp
  frameId := frameId
  childFrameId := childFrameId
  x := pose.x
  y := pose.y
  z := 0
  rotation := quaternionOfYaw pose.yaw

/-- Where a planar pose is. -/
def placement (pose : LaserPose K) : Motion K := ⟨⟨0, pose.x, pose.y, 0⟩, quaternionOfYaw pose.yaw⟩

/-! ## The functions of the source -/

variable (params : Params) (rotation : MsgConvert (QuaternionMsg K) (Rotation K))

def poseMsg (pose : Pose K) : PoseMsg K := (MsgConvert.pose rotation).toRos pose default

def updateMembers (f : Members K → Members K) : WorkerM K Unit := do
  let m ← perform .members
  perform (.setMembers (f m))

/-- Whether the platform supports what is asked of it. -/
def isSupported {α : Type} (call : WorkerM K α) : WorkerM K Bool :=
  Prog.tryCatch (call >>= fun _ => return true) fun e =>
    if e = .unsupportedCommand then return false else throw e

/-- `ServerOdometryWorker::reinitWorkLoop` -/
def reinitOdometry : WorkerM K Unit := do
  if params.pubAccumulateOdometry then
    let supported ← isSupported getOdoPose
    updateMembers fun m => { m with isOdoPoseFeatureSupported := supported }
  let supported ← isSupported getSpeed
  updateMembers fun m => { m with isSpeedFeatureSupported := supported }

/-- The first transform of both workers. -/
def broadcastFixed (frame : String) : WorkerM K Unit := do
  if params.fixedOdomMapTf then
    let now ← perform .now
    perform (.sendTransform (fixedTransform (.ofTime now) params.laser.mapFrame frame))

/-- The second one, with the pose of the robot. -/
def broadcastRobot (frame : String) (pose : Pose K) : WorkerM K Unit := do
  let now ← perform .now
  perform (.sendTransform
    (planarTransform quaternionOfYaw (.ofTime now) frame params.robotFrame pose.planar))

/-- What `ServerOdometryWorker::doPerform` does without the accumulated odometry. -/
def broadcastOdometry : WorkerM K (Pose K) := do
  broadcastFixed params params.odomFrame
  let odometryPose ← getPose
  broadcastRobot quaternionOfYaw params params.odomFrame odometryPose
  return odometryPose

def takeOdometryPose (m : Members K) : WorkerM K (Pose K) :=
  if params.pubAccumulateOdometry && m.isOdoPoseFeatureSupported then getOdoPose
  else broadcastOdometry quaternionOfYaw params

def takeRobotSpeed (m : Members K) : WorkerM K (MotionRequest K) :=
  if m.isSpeedFeatureSupported then getSpeed else return ⟨0, 0, 0⟩

/-- `ServerOdometryWorker::doPerform` -/
def performOdometry : WorkerM K Unit := do
  let m : Members K ← perform .members
  let odometryPose ← takeOdometryPose quaternionOfYaw params m
  let now ← perform .now
  let twist ← takeRobotSpeed m
  perform (.publishOdometry ⟨.ofTime now, params.odomFrame, poseMsg rotation odometryPose, twist⟩)

/-- `ServerRobotPoseWorker::doPerform` -/
def performRobotPose : WorkerM K Unit := do
  broadcastFixed params params.robotPoseFrame
  let robotPose ← getPose
  updateMembers fun m => { m with robotPose := robotPose }
  broadcastRobot quaternionOfYaw params params.robotPoseFrame robotPose
  let now ← perform .now
  perform (.publishRobotPose ⟨.ofTime now, params.robotPoseFrame, poseMsg rotation robotPose⟩)

/-- A scan, with the clock before and after it if the scan is not raw. -/
def takeLaserScan : WorkerM K ((Int64 × Int64) × SystemScan K) := do
  if !params.laser.rawLadarData then
    let startScanTime ← perform .now
    let tLs ← getLaserScan
    let endScanTime ← perform .now
    return ((startScanTime, endScanTime), tLs)
  else
    let tLs ← getRawLaserScan
    return ((0, 0), tLs)

def publishLaserScan (out : Except Exn (Option (Transform K × LaserScanMsg K))) :
    WorkerM K Unit := do
  match ← ofExcept out with
  | none => return
  | some (t, msgScan) =>
      perform (.sendTransform t)
      perform (.publishLaserScan msgScan)

variable [LinearOrder K] [FloorRing K] (pi : K)

/-- `ServerLaserScanWorker::doPerform` -/
def performLaserScan : WorkerM K Unit := do
  let (clock, tLs) ← takeLaserScan params
  let m : Members K ← perform .members
  let out := ServerLaserScanWorker.doPerform pi quaternionOfYaw params.laser
    m.robotPose.planar clock tLs m.latestLidarStartTimestamp
  perform (.setMembers { m with latestLidarStartTimestamp := out.2 })
  publishLaserScan out.1

/-! ## The system -/

/-- The platform and the clock answer what they like. -/
def handle (s : Members K) : (o : Op K) → Ret o → Members K → Prop
  | .members, r, s' => r = s ∧ s' = s
  | .setMembers m, _, s' => s' = m
  | _, _, s' => s' = s

inductive Job where
  | reinitOdometry
  | performOdometry
  | performRobotPose
  | performLaserScan

def system : System (Ret (K := K)) Empty (Members K) where
  handle := handle
  act := fun _ a _ => a.elim

def jobs : Job → WorkerM K Unit
  | .reinitOdometry => reinitOdometry params
  | .performOdometry => performOdometry quaternionOfYaw params rotation
  | .performRobotPose => performRobotPose quaternionOfYaw params rotation
  | .performLaserScan => performLaserScan quaternionOfYaw params pi

abbrev WorkerEvent (K : Type) [Field K] := Event (Ret (K := K)) Empty Job

abbrev WorkerConfig (K : Type) [Field K] :=
  Config (Ret (K := K)) Empty Job (Members K) Exn Unit

def WorkerConfig.init (m : Members K) : WorkerConfig K := ⟨return, m, []⟩

end Model

end Transforms

end Ros2WsDemo

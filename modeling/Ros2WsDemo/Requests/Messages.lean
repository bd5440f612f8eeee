import Ros2WsDemo.Convert.Messages

/-!
# Requests to the robot

The messages of the topics that ask the robot to do something, and the calls of the platform
they are converted to; the two topics for velocities are modelled on their own.  What belongs
to the compiled SDK or to `tf2` is a parameter: the values its constructors leave in options,
and the conversions of rotations.
-/

namespace Ros2WsDemo.Requests

/-! ## `rpos` values -/

inductive MapKind where
  | exploreMap
  | costMap
  | sweeperMap
  | dyeingMap
  | uwbMap
  | slamMap
  | localSlamMap
  | dbowMap
  | optimalOperationalMap
  | markerMap
  | imageSnapshot
  | rectangleAreaMap
  | discrepancyRecordMap
  deriving DecidableEq

inductive ArtifactUsage where
  | virtualWall
  | virtualTrack
  | scheduleArea
  | maintenanceArea
  | forbiddenArea
  | sensorDisableArea
  | elevatorArea
  | dangerousArea
  | poi
  | coverageArea
  | restrictedArea
  | landmark
  deriving DecidableEq

inductive ActionDirection where
  | forward
  | backward
  | turnRight
  | turnLeft
  | invalidDirection
  deriving DecidableEq

inductive NavigationMode where
  | free
  | strictVirtualTrack
  | priorityVirtualTrack
  | followPathPoints
  | reverseWalk
  | strictVirtualTrackReverseWalk
  deriving DecidableEq

structure MoveOptions (Dbl : Type) where
  mode : NavigationMode
  flag : UInt32
  speedRatio : Option Dbl
  failRetryCount : Option ℤ
  yaw : Option Dbl
  acceptablePrecision : Option Dbl

namespace MoveOptions

def milestone : UInt32 := 2

def keyPoints : UInt32 := 8

def precise : UInt32 := 16

def withYaw : UInt32 := 32

def keyPointsWithOA : UInt32 := 128

end MoveOptions

structure RotateActionOptions where
  timeoutInMs : Option ℤ
  ifRotateCircumcircleCollide : Bool
  waitAfterCanRotate : Bool

/-- New options, the test for a flag, rotations, and `float` as `double`. -/
structure Sdk (Flt Dbl Scan : Type) where
  newMoveOptions : MoveOptions Dbl
  hasFlag : UInt32 → UInt32 → Bool
  newRotateActionOptions : RotateActionOptions
  newRecoverLocalizationOptions : RecoverLocalizationOptions Scan
  toRotation : QuaternionMsg Dbl → Rotation Dbl
  toQuaternion : Rotation Dbl → QuaternionMsg Dbl
  getYaw : QuaternionMsg Dbl → Flt
  toDouble : Flt → Dbl

/-- Calls of the platform. -/
inductive RobotCall (Flt Dbl Scan : Type) where
  | moveTo (location : Location Dbl) (options : MoveOptions Dbl)
  | moveToLocations (locations : List (Location Dbl)) (options : MoveOptions Dbl)
  | moveByDirection (direction : ActionDirection) (options : MoveOptions Dbl)
  | moveByTheta (theta : Flt) (options : MoveOptions Dbl)
  | rotateTo (orientation : Rotation Dbl) (options : RotateActionOptions)
  | rotate (rotation : Rotation Dbl) (options : RotateActionOptions)
  | recoverLocalization (area : RectangleF Flt) (options : RecoverLocalizationOptions Scan)
  | clearMap (kind : MapKind)
  | setMapUpdate (update : Bool) (kind : MapKind)
  | setMapLocalization (localization : Bool)
  | setPose (pose : Pose Dbl)
  | goHome
  | getCurrentAction
  | cancel (action : ℕ)
  | addLine (usage : ArtifactUsage) (line : Line Flt)
  | addLines (usage : ArtifactUsage) (lines : List (Line Flt))
  | removeLineById (usage : ArtifactUsage) (id : UInt32)
  | clearLines (usage : ArtifactUsage)
  | moveLine (usage : ArtifactUsage) (line : Line Flt)
  | moveLines (usage : ArtifactUsage) (lines : List (Line Flt))

/-- The current action may be empty; the callbacks drop every other result. -/
def RobotCall.Reply {Flt Dbl Scan : Type} : RobotCall Flt Dbl Scan → Type
  | getCurrentAction => Option ℕ
  | _ => Unit

/-! ## Messages -/

structure MapKindMsg where
  kind : Int8

namespace MapKindMsg

@[match_pattern] abbrev unknown : Int8 := -1

@[match_pattern] abbrev exploreMap : Int8 := 0

@[match_pattern] abbrev sweeperMap : Int8 := 1

@[match_pattern] abbrev uwbMap : Int8 := 2

@[match_pattern] abbrev slamMap : Int8 := 3

@[match_pattern] abbrev localSlamMap : Int8 := 4

end MapKindMsg

structure ArtifactUsageMsg where
  usage : Int8

namespace ArtifactUsageMsg

@[match_pattern] abbrev unknown : Int8 := -1

@[match_pattern] abbrev virtualWall : Int8 := 0

@[match_pattern] abbrev virtualTrack : Int8 := 1

end ArtifactUsageMsg

structure ActionDirectionMsg where
  direction : Int8

namespace ActionDirectionMsg

@[match_pattern] abbrev unknown : Int8 := -1

@[match_pattern] abbrev forward : Int8 := 0

@[match_pattern] abbrev backward : Int8 := 1

@[match_pattern] abbrev turnRight : Int8 := 2

@[match_pattern] abbrev turnLeft : Int8 := 3

end ActionDirectionMsg

structure MoveOptionsMsg (Dbl : Type) where
  optFlags : UInt32
  speedRatio : OptionalMsg Dbl

structure RectFlt32 (Flt : Type) where
  x : Flt
  y : Flt
  w : Flt
  h : Flt

/-- A message, by the topic it arrives on. -/
inductive Request (Flt Dbl : Type) where
  | moveToGoal (msg : PoseMsg Dbl)
  | syncMap
  | setPose (msg : PoseMsg Dbl)
  | recoverLocalization (area : RectFlt32 Flt) (options : LocalizationOptions)
  | clearMap (kind : MapKindMsg)
  | setMapUpdate (enabled : Bool) (kind : MapKindMsg)
  | setMapLocalization (enabled : Bool)
  | moveByDirection (direction : ActionDirectionMsg) (options : MoveOptionsMsg Dbl)
  | moveByTheta (theta : Flt) (options : MoveOptionsMsg Dbl)
  | moveTo (location : Location Dbl) (options : MoveOptionsMsg Dbl) (yaw : Flt)
  | moveToLocations (locations : List (Location Dbl)) (options : MoveOptionsMsg Dbl) (yaw : Flt)
  | rotateTo (orientation : QuaternionMsg Dbl) (options : MoveOptionsMsg Dbl)
  | rotate (rotation : QuaternionMsg Dbl) (options : MoveOptionsMsg Dbl)
  | goHome
  | cancelAction
  | addLine (usage : ArtifactUsageMsg) (line : Line2DFlt32 Flt)
  | addLines (usage : ArtifactUsageMsg) (lines : List (Line2DFlt32 Flt))
  | removeLine (usage : ArtifactUsageMsg) (id : UInt32)
  | clearLines (usage : ArtifactUsageMsg)
  | moveLine (usage : ArtifactUsageMsg) (line : Line2DFlt32 Flt)
  | moveLines (usage : ArtifactUsageMsg) (lines : List (Line2DFlt32 Flt))

/-! ## Conversions -/

def mapKind : MsgConvert MapKindMsg MapKind where
  toRos sltcVal rosMsg := { rosMsg with kind :=
    match sltcVal with
    | .exploreMap => MapKindMsg.exploreMap
    | .sweeperMap => MapKindMsg.sweeperMap
    | .uwbMap => MapKindMsg.uwbMap
    | .slamMap => MapKindMsg.slamMap
    | .localSlamMap => MapKindMsg.localSlamMap
    | _ => MapKindMsg.unknown }
  toSltc rosMsg _ :=
    match rosMsg.kind with
    | MapKindMsg.exploreMap => .ok .exploreMap
    | MapKindMsg.sweeperMap => .ok .sweeperMap
    | MapKindMsg.uwbMap => .ok .uwbMap
    | MapKindMsg.slamMap => .ok .slamMap
    | MapKindMsg.localSlamMap => .ok .localSlamMap
    | _ => .error (.runtimeError "no MapKind::UNKNOWN in RPOS.")

def artifactUsage : MsgConvert ArtifactUsageMsg ArtifactUsage where
  toRos sltcVal rosMsg := { rosMsg with usage :=
    match sltcVal with
    | .virtualWall => ArtifactUsageMsg.virtualWall
    | .virtualTrack => ArtifactUsageMsg.virtualTrack
    | _ => ArtifactUsageMsg.unknown }
  toSltc rosMsg _ :=
    match rosMsg.usage with
    | ArtifactUsageMsg.virtualWall => .ok .virtualWall
    | ArtifactUsageMsg.virtualTrack => .ok .virtualTrack
    | _ => .error (.runtimeError "no ArtifactUsageUnknown in RPOS.")

def actionDirection : MsgConvert ActionDirectionMsg ActionDirection where
  toRos sltcVal rosMsg := { rosMsg with direction :=
    match sltcVal with
    | .forward => ActionDirectionMsg.forward
    | .backward => ActionDirectionMsg.backward
    | .turnRight => ActionDirectionMsg.turnRight
    | .turnLeft => ActionDirectionMsg.turnLeft
    | _ => ActionDirectionMsg.unknown }
  toSltc rosMsg _ := .ok
    (match rosMsg.direction with
    | ActionDirectionMsg.forward => .forward
    | ActionDirectionMsg.backward => .backward
    | ActionDirectionMsg.turnRight => .turnRight
    | ActionDirectionMsg.turnLeft => .turnLeft
    | _ => .invalidDirection)

section Structures

variable {Flt Dbl Scan : Type}

instance [Zero Dbl] : Inhabited (Location Dbl) := ⟨⟨0, 0, 0⟩⟩

/-- The flags and the ratio; the other options are not known to the messages. -/
def moveOptions [Inhabited Dbl] : MsgConvert (MoveOptionsMsg Dbl) (MoveOptions Dbl) where
  toRos sltcVal rosMsg := { rosMsg with
    optFlags := sltcVal.flag
    speedRatio := optionalToRosMsg sltcVal.speedRatio rosMsg.speedRatio }
  toSltc rosMsg sltcVal := .ok { sltcVal with
    flag := rosMsg.optFlags
    speedRatio := rosMsgToOptional rosMsg.speedRatio }

def rectFlt32 : MsgConvert (RectFlt32 Flt) (RectangleF Flt) where
  toRos sltcVal rosMsg := { rosMsg with
    x := sltcVal.x, y := sltcVal.y, w := sltcVal.width, h := sltcVal.height }
  toSltc rosMsg _ := .ok ⟨rosMsg.x, rosMsg.y, rosMsg.w, rosMsg.h⟩

def Sdk.rotation (sdk : Sdk Flt Dbl Scan) : MsgConvert (QuaternionMsg Dbl) (Rotation Dbl) where
  toRos sltcVal _ := sdk.toQuaternion sltcVal
  toSltc rosMsg _ := .ok (sdk.toRotation rosMsg)

end Structures

end Ros2WsDemo.Requests

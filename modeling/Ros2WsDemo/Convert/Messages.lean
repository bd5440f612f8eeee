import Ros2WsDemo.Convert.MsgConvert

/-!
# Round trips of sensors, lines and options

The conversions of the sensor table, of lines and of the options for recovering the
localization, with the message types they go through.  `Flt` is `float` and `Dbl` is
`double`; they are copied only.  The conversion between Euler angles and quaternions is a
pair of functions.
-/

namespace Ros2WsDemo

/-! ## `rpos` values -/

inductive SensorType where
  | unknown
  | bumper
  | cliff
  | sonar
  | depthCamera
  | wallSensor
  | magTapeDetector
  | tofCliff
  deriving DecidableEq

inductive ImpactSensorType where
  | digital
  | analog
  deriving DecidableEq

structure Location (Dbl : Type) where
  x : Dbl
  y : Dbl
  z : Dbl
  deriving DecidableEq

structure Rotation (Dbl : Type) where
  yaw : Dbl
  pitch : Dbl
  roll : Dbl
  deriving DecidableEq

structure Pose (Dbl : Type) where
  location : Location Dbl
  rotation : Rotation Dbl
  deriving DecidableEq

structure ImpactSensorInfo (Flt Dbl : Type) where
  id : ℤ
  pose : Pose Dbl
  type : ImpactSensorType
  coreSensorType : SensorType
  refreshFreq : Flt

structure Line (Flt : Type) where
  startP : Flt × Flt
  endP : Flt × Flt
  id : UInt32

inductive RecoverLocalizationMovement where
  | unknown
  | noMove
  | rotateOnly
  | any
  | manual
  deriving DecidableEq

/-- `Scan` is `rpos::features::system_resource::LaserScan`. -/
structure RecoverLocalizationOptions (Scan : Type) where
  maxRecoverTimeInMilliSeconds : Option Int32
  recoverMovementType : Option RecoverLocalizationMovement
  observation : Option Scan

/-! ## Messages -/

structure SensorTypeMsg where
  type : Int8 := 0

namespace SensorTypeMsg

@[match_pattern] abbrev unknown : Int8 := -1

@[match_pattern] abbrev bumper : Int8 := 0

@[match_pattern] abbrev cliff : Int8 := 1

@[match_pattern] abbrev sonar : Int8 := 2

@[match_pattern] abbrev depthCamera : Int8 := 3

@[match_pattern] abbrev wallSensor : Int8 := 4

@[match_pattern] abbrev magTapeDetector : Int8 := 5

end SensorTypeMsg

structure ImpactTypeMsg where
  type : Int8 := 0

namespace ImpactTypeMsg

@[match_pattern] abbrev unknown : Int8 := -1

@[match_pattern] abbrev digital : Int8 := 0

@[match_pattern] abbrev analog : Int8 := 1

end ImpactTypeMsg

structure LocalizationMovementMsg where
  type : Int8 := 0

namespace LocalizationMovementMsg

@[match_pattern] abbrev unknown : Int8 := -1

@[match_pattern] abbrev noMove : Int8 := 0

@[match_pattern] abbrev rotateOnly : Int8 := 1

@[match_pattern] abbrev any : Int8 := 2

end LocalizationMovementMsg

structure QuaternionMsg (Dbl : Type) where
  x : Dbl
  y : Dbl
  z : Dbl
  w : Dbl

structure PoseMsg (Dbl : Type) where
  position : Location Dbl
  orientation : QuaternionMsg Dbl

structure BasicSensorInfo (Flt Dbl : Type) where
  id : ℤ
  sensorType : SensorTypeMsg
  impactType : ImpactTypeMsg
  installPose : PoseMsg Dbl
  refreshFreq : Flt

structure Line2DFlt32 (Flt : Type) where
  id : UInt32
  start : Flt × Flt
  «end» : Flt × Flt

structure LocalizationOptions where
  maxTimeMs : OptionalMsg Int32
  mvmtType : OptionalMsg LocalizationMovementMsg

/-! ## New values -/

section Defaults

variable {Flt Dbl : Type} [Zero Flt] [Zero Dbl] [One Dbl]

instance : Inhabited SensorTypeMsg := ⟨{}⟩

instance : Inhabited ImpactTypeMsg := ⟨{}⟩

instance : Inhabited LocalizationMovementMsg := ⟨{}⟩

instance : Inhabited RecoverLocalizationMovement := ⟨.unknown⟩

instance : Inhabited (PoseMsg Dbl) := ⟨⟨⟨0, 0, 0⟩, ⟨0, 0, 0, 1⟩⟩⟩

instance : Inhabited (BasicSensorInfo Flt Dbl) := ⟨⟨0, {}, {}, default, 0⟩⟩

instance : Inhabited (ImpactSensorInfo Flt Dbl) :=
  ⟨⟨0, ⟨⟨0, 0, 0⟩, ⟨0, 0, 0⟩⟩, .digital, .bumper, 0⟩⟩

instance : Inhabited (Line Flt) := ⟨⟨(0, 0), (0, 0), 0⟩⟩

instance : Inhabited (Line2DFlt32 Flt) := ⟨⟨0, (0, 0), (0, 0)⟩⟩

end Defaults

namespace MsgConvert

/-! ## Enumerations -/

def sensorType : MsgConvert SensorTypeMsg SensorType where
  toRos sltcVal rosMsg := { rosMsg with type :=
    match sltcVal with
    | .bumper => SensorTypeMsg.bumper
    | .cliff => SensorTypeMsg.cliff
    | .sonar => SensorTypeMsg.sonar
    | .depthCamera => SensorTypeMsg.depthCamera
    | .wallSensor => SensorTypeMsg.wallSensor
    | .magTapeDetector => SensorTypeMsg.magTapeDetector
    | _ => SensorTypeMsg.unknown }
  toSltc rosMsg _ := .ok
    (match rosMsg.type with
    | SensorTypeMsg.bumper => .bumper
    | SensorTypeMsg.cliff => .cliff
    | SensorTypeMsg.sonar => .sonar
    | SensorTypeMsg.depthCamera => .depthCamera
    | SensorTypeMsg.wallSensor => .wallSensor
    | SensorTypeMsg.magTapeDetector => .magTapeDetector
    | _ => .unknown)

def impactType : MsgConvert ImpactTypeMsg ImpactSensorType where
  toRos sltcVal rosMsg := { rosMsg with type :=
    match sltcVal with
    | .digital => ImpactTypeMsg.digital
    | .analog => ImpactTypeMsg.analog }
  toSltc rosMsg _ :=
    match rosMsg.type with
    | ImpactTypeMsg.digital => .ok .digital
    | ImpactTypeMsg.analog => .ok .analog
    | _ => .error (.runtimeError "no ImpactSensorTypeUnknown in RPOS.")

def localizationMovement : MsgConvert LocalizationMovementMsg RecoverLocalizationMovement where
  toRos sltcVal rosMsg := { rosMsg with type :=
    match sltcVal with
    | .noMove => LocalizationMovementMsg.noMove
    | .rotateOnly => LocalizationMovementMsg.rotateOnly
    | .any => LocalizationMovementMsg.any
    | _ => LocalizationMovementMsg.unknown }
  toSltc rosMsg _ := .ok
    (match rosMsg.type with
    | LocalizationMovementMsg.noMove => .noMove
    | LocalizationMovementMsg.rotateOnly => .rotateOnly
    | LocalizationMovementMsg.any => .any
    | _ => .unknown)

/-- The messages have no number for the type that was added last. -/
def knownSensorType (v : SensorType) : SensorType := if v = .tofCliff then .unknown else v

def knownMovement (v : RecoverLocalizationMovement) : RecoverLocalizationMovement :=
  if v = .manual then .unknown else v

theorem sensorType_roundTrips (v : SensorType) : sensorType.RoundTrips knownSensorType v := by
  intro ros sltc
  cases v <;> rfl

theorem impactType_roundTrips (v : ImpactSensorType) : impactType.RoundTrips id v := by
  intro ros sltc
  cases v <;> rfl

theorem localizationMovement_roundTrips (v : RecoverLocalizationMovement) :
    localizationMovement.RoundTrips knownMovement v := by
  intro ros sltc
  cases v <;> rfl

/-! ## Structures -/

section Structures

variable {Flt Dbl Scan : Type} (rotation : MsgConvert (QuaternionMsg Dbl) (Rotation Dbl))

def location : MsgConvert (Location Dbl) (Location Dbl) where
  toRos sltcVal rosMsg := { rosMsg with x := sltcVal.x, y := sltcVal.y, z := sltcVal.z }
  toSltc rosMsg sltcVal := .ok { sltcVal with x := rosMsg.x, y := rosMsg.y, z := rosMsg.z }

def pose : MsgConvert (PoseMsg Dbl) (Pose Dbl) where
  toRos sltcVal rosMsg := { rosMsg with
    position := location.toRos sltcVal.location rosMsg.position
    orientation := rotation.toRos sltcVal.rotation rosMsg.orientation }
  toSltc rosMsg sltcVal := do
    let newLocation ← location.toSltc rosMsg.position sltcVal.location
    let newRotation ← rotation.toSltc rosMsg.orientation sltcVal.rotation
    return { sltcVal with location := newLocation, rotation := newRotation }

def basicSensorInfo : MsgConvert (BasicSensorInfo Flt Dbl) (ImpactSensorInfo Flt Dbl) where
  toRos sltcVal rosMsg := { rosMsg with
    id := sltcVal.id
    sensorType := sensorType.toRos sltcVal.coreSensorType rosMsg.sensorType
    impactType := impactType.toRos sltcVal.type rosMsg.impactType
    installPose := (pose rotation).toRos sltcVal.pose rosMsg.installPose
    refreshFreq := sltcVal.refreshFreq }
  toSltc rosMsg sltcVal := do
    let newCoreSensorType ← sensorType.toSltc rosMsg.sensorType sltcVal.coreSensorType
    let newType ← impactType.toSltc rosMsg.impactType sltcVal.type
    let newPose ← (pose rotation).toSltc rosMsg.installPose sltcVal.pose
    return { sltcVal with
      id := rosMsg.id
      coreSensorType := newCoreSensorType
      type := newType
      pose := newPose
      refreshFreq := rosMsg.refreshFreq }

def line2DFlt32 : MsgConvert (Line2DFlt32 Flt) (Line Flt) where
  toRos sltcVal rosMsg := { rosMsg with
    id := sltcVal.id
    start := sltcVal.startP
    «end» := sltcVal.endP }
  toSltc rosMsg sltcVal := .ok { sltcVal with
    id := rosMsg.id
    startP := rosMsg.start
    endP := rosMsg.end }

/-- The field `observation` is not known to the messages. -/
def localizationOptions : MsgConvert LocalizationOptions (RecoverLocalizationOptions Scan) where
  toRos sltcVal rosMsg := { rosMsg with
    maxTimeMs := optionalToRosMsg sltcVal.maxRecoverTimeInMilliSeconds rosMsg.maxTimeMs
    mvmtType := localizationMovement.toRosOptionalMsg sltcVal.recoverMovementType rosMsg.mvmtType }
  toSltc rosMsg sltcVal := do
    let newMovementType ← localizationMovement.fromRosOptionalMsg rosMsg.mvmtType
    return { sltcVal with
      maxRecoverTimeInMilliSeconds := rosMsgToOptional rosMsg.maxTimeMs
      recoverMovementType := newMovementType }

def knownSensorInfo (info : ImpactSensorInfo Flt Dbl) : ImpactSensorInfo Flt Dbl :=
  { info with coreSensorType := knownSensorType info.coreSensorType }

variable {rotation} in
theorem basicSensorInfo_roundTrips {info : ImpactSensorInfo Flt Dbl}
    (h : rotation.RoundTrips id info.pose.rotation) :
    (basicSensorInfo rotation).RoundTrips knownSensorInfo info := by
  intro ros sltc
  have hcore := sensorType_roundTrips info.coreSensorType ros.sensorType sltc.coreSensorType
  have htype := impactType_roundTrips info.type ros.impactType sltc.type
  have hrotation := h ros.installPose.orientation sltc.pose.rotation
  simp only [basicSensorInfo, pose, location, hcore, htype, hrotation, except_ok_bind]
  rfl

theorem line2DFlt32_roundTrips (line : Line Flt) : line2DFlt32.RoundTrips id line :=
  fun _ _ => rfl

theorem localizationOptions_toSltc_toRos (options : RecoverLocalizationOptions Scan)
    (ros : LocalizationOptions) (sltc : RecoverLocalizationOptions Scan) :
    localizationOptions.toSltc (localizationOptions.toRos options ros) sltc =
      .ok { options with
        recoverMovementType := options.recoverMovementType.map knownMovement
        observation := sltc.observation } := by
  have hmovement := RoundTrips.optional (fun v (_ : options.recoverMovementType = some v) =>
    localizationMovement_roundTrips v) ros.mvmtType
  simp only [localizationOptions, hmovement, except_ok_bind, rosMsgToOptional_optionalToRosMsg]
  rfl

variable [Zero Flt] [Zero Dbl] [One Dbl]

/-- Sensor tables, lines and options come back, whatever the destinations contain, up to the
values and the field that the messages do not know. -/
theorem tables_roundTrip {sensors : SortedMap ℤ (ImpactSensorInfo Flt Dbl)}
    (hrotation : ∀ id info, sensors.find? id = some info →
      rotation.RoundTrips (fun r => r) info.pose.rotation)
    (lines : List (Line Flt)) (options : RecoverLocalizationOptions Scan) :
    (map (basicSensorInfo rotation)).RoundTrips (SortedMap.mapVal knownSensorInfo) sensors ∧
      (vector line2DFlt32).RoundTrips (fun l => l) lines ∧
      ∀ ros (sltc : RecoverLocalizationOptions Scan),
        localizationOptions.toSltc (localizationOptions.toRos options ros) sltc = .ok { options with
          recoverMovementType := options.recoverMovementType.map knownMovement
          observation := sltc.observation } := by
  refine ⟨?_, ?_, localizationOptions_toSltc_toRos options⟩
  · exact RoundTrips.map fun id info hinfo => basicSensorInfo_roundTrips (hrotation id info hinfo)
  · intro ros sltc
    have hlines := RoundTrips.vector (fun l (_ : l ∈ lines) => line2DFlt32_roundTrips l) ros sltc
    rwa [List.map_id] at hlines

end Structures

/-- What the rotation conversion does where there is no rotation. -/
def exampleRotation : MsgConvert (QuaternionMsg ℚ) (Rotation ℚ) where
  toRos sltcVal _ := ⟨sltcVal.roll, sltcVal.pitch, sltcVal.yaw, 1⟩
  toSltc rosMsg _ := .ok ⟨rosMsg.z, rosMsg.y, rosMsg.x⟩

/-- One sensor that is not rotated. -/
def exampleSensors (type : SensorType) : SortedMap ℤ (ImpactSensorInfo ℚ ℚ) :=
  SortedMap.empty.alter 3 fun _ => ⟨3, ⟨⟨1, 0, 0⟩, ⟨0, 0, 0⟩⟩, .analog, type, 10⟩

theorem tables_roundTrip_sonar :
    (map (basicSensorInfo exampleRotation)).RoundTrips (SortedMap.mapVal knownSensorInfo)
        (exampleSensors .sonar) ∧
      (vector line2DFlt32).RoundTrips (fun l => l) [⟨((0 : ℚ), 0), (1, 0), 7⟩] ∧
      ∀ ros (sltc : RecoverLocalizationOptions Unit),
        localizationOptions.toSltc
            (localizationOptions.toRos ⟨some 500, some .any, (none : Option Unit)⟩ ros) sltc =
          .ok ⟨some 500, some .any, sltc.observation⟩ :=
  tables_roundTrip exampleRotation (fun _ _ _ _ _ => rfl) _ _

/-- A time-of-flight cliff sensor comes back as a sensor of unknown type. -/
theorem tofCliff_lost : ¬ ∀ (rotation : MsgConvert (QuaternionMsg ℚ) (Rotation ℚ))
    (sensors : SortedMap ℤ (ImpactSensorInfo ℚ ℚ)),
      (∀ r, rotation.RoundTrips (fun r => r) r) →
        (map (basicSensorInfo rotation)).RoundTrips (fun m => m) sensors := by
  intro hall
  have hback := hall exampleRotation (exampleSensors .tofCliff) (fun _ _ _ => rfl) .empty .empty
  have hknown : (map (basicSensorInfo exampleRotation)).RoundTrips
      (SortedMap.mapVal knownSensorInfo) (exampleSensors .tofCliff) :=
    RoundTrips.map fun _ _ _ => basicSensorInfo_roundTrips fun _ _ => rfl
  rw [hknown, Except.ok.injEq] at hback
  have hfind := congrArg (fun m => (m.find? 3).map ImpactSensorInfo.coreSensorType) hback
  cases hfind

end MsgConvert

end Ros2WsDemo

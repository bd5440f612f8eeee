import Ros2WsDemo.Sensors.Info

/-!
# The values of the sensors

`ServerBasicSensorsValuesWorker` joins the table of known sensors with the readings of one
call.  A sensor without a reading keeps the defaults of its message.
-/

namespace Ros2WsDemo

/-- What is read of `rpos::features::impact_sensor::ImpactSensorValue`. -/
structure ImpactSensorValue (Flt : Type) where
  value : Flt

structure BasicSensorValue (Flt : Type) where
  isInImpact : Bool
  value : Flt

structure BasicSensorValueData (Flt Dbl : Type) where
  info : BasicSensorInfo Flt Dbl
  value : BasicSensorValue Flt

instance {Flt : Type} [Zero Flt] : Inhabited (BasicSensorValue Flt) := ⟨⟨false, 0⟩⟩

namespace ServerBasicSensorsValuesWorker

variable {Flt Dbl : Type} [LT Flt] [DecidableLT Flt] (fltEpsilon : Flt)

/-- `ServerWorkData::sfIsDigitalSensorValueImpact` -/
def sfIsDigitalSensorValueImpact (fVal : Flt) : Bool := fVal < fltEpsilon

def isSensorValueImpact (basicInfo : BasicSensorInfo Flt Dbl) (sensorVal : ImpactSensorValue Flt) :
    Bool :=
  match basicInfo.impactType.type with
  | ImpactTypeMsg.digital => sfIsDigitalSensorValueImpact fltEpsilon sensorVal.value
  | ImpactTypeMsg.analog =>
      match basicInfo.sensorType.type with
      | SensorTypeMsg.sonar => true
      | _ => false
  | _ => false

variable [Zero Flt]

/-- One turn of the loop over the known sensors. -/
def valueData (sensorsValues : SortedMap ℤ (ImpactSensorValue Flt)) :
    ℤ × BasicSensorInfo Flt Dbl → Except Exn (BasicSensorValueData Flt Dbl)
  | (first, rcInfo) => do
      boostAssert (rcInfo.id = first) "rcInfo.id == citInfo->first"
      match sensorsValues.find? rcInfo.id with
      | none => return ⟨rcInfo, default⟩
      | some rcSrcVal =>
          return ⟨rcInfo, isSensorValueImpact fltEpsilon rcInfo rcSrcVal, rcSrcVal.value⟩

/-- The readings are `none` when the call of the platform fails; then nothing is published. -/
def doPerform (sensorsValues : Option (SortedMap ℤ (ImpactSensorValue Flt)))
    (rosBasicSensorsInfo : SortedMap ℤ (BasicSensorInfo Flt Dbl)) :
    Except Exn (Option (List (BasicSensorValueData Flt Dbl))) :=
  match sensorsValues with
  | none => .ok none
  | some sensorsValues =>
      some <$> rosBasicSensorsInfo.entries.mapM (valueData fltEpsilon sensorsValues)

def entry (sensorsValues : SortedMap ℤ (ImpactSensorValue Flt)) (info : BasicSensorInfo Flt Dbl) :
    BasicSensorValueData Flt Dbl :=
  ⟨info, (sensorsValues.find? info.id).elim default fun v =>
    ⟨isSensorValueImpact fltEpsilon info v, v.value⟩⟩

theorem valueData_eq {sensorsValues : SortedMap ℤ (ImpactSensorValue Flt)}
    {e : ℤ × BasicSensorInfo Flt Dbl} (hid : e.2.id = e.1) :
    valueData fltEpsilon sensorsValues e = .ok (entry fltEpsilon sensorsValues e.2) := by
  rw [valueData, boostAssert_of hid, except_ok_bind, entry]
  cases sensorsValues.find? e.2.id <;> rfl

theorem doPerform_some {known : SortedMap ℤ (BasicSensorInfo Flt Dbl)}
    (hkeyed : ∀ id info, known.find? id = some info → info.id = id)
    (sensorsValues : SortedMap ℤ (ImpactSensorValue Flt)) :
    doPerform fltEpsilon (some sensorsValues) known =
      .ok (some (known.entries.map fun e => entry fltEpsilon sensorsValues e.2)) := by
  have hid : ∀ e ∈ known.entries, e.2.id = e.1 := fun e he =>
    hkeyed e.1 e.2 (SortedMap.find?_eq_some_iff.2 he)
  rw [doPerform, mapM_ok fun e he => valueData_eq fltEpsilon (hid e he), except_map_ok]

/-- Whatever the other worker was told before, the assertion holds. -/
theorem doPerform_after_run [Zero Dbl] [One Dbl] {sdk : PoseSdk Dbl}
    {reports : List (Option (List (ImpactSensorInfo Flt Dbl)))} {wkDat : SensorTables Flt Dbl}
    (hrun : ServerBasicSensorsInfoWorker.run sdk reports = .ok wkDat)
    (sensorsValues : SortedMap ℤ (ImpactSensorValue Flt)) :
    doPerform fltEpsilon (some sensorsValues) wkDat.rosBasicSensorsInfo =
      .ok (some (wkDat.rosBasicSensorsInfo.entries.map fun e =>
        entry fltEpsilon sensorsValues e.2)) := by
  obtain ⟨wkDat', hrun', hconsistent⟩ := ServerBasicSensorsInfoWorker.run_consistent reports
  obtain rfl := Except.ok.inj (hrun'.symm.trans hrun)
  exact doPerform_some fltEpsilon hconsistent.ros_keyed sensorsValues

/-- What an entry says where its sensor has a reading, and where it has none: then the value
is 0 and the flag is down, which need not agree. -/
structure IsJoined (sensorsValues : SortedMap ℤ (ImpactSensorValue Flt))
    (d : BasicSensorValueData Flt Dbl) : Prop where
  reading : ∀ v, sensorsValues.find? d.info.id = some v → d.value.value = v.value ∧
    d.value.isInImpact = isSensorValueImpact fltEpsilon d.info ⟨d.value.value⟩
  noReading : sensorsValues.find? d.info.id = none → d.value.value = 0 ∧
    d.value.isInImpact = false

theorem isJoined_entry (sensorsValues : SortedMap ℤ (ImpactSensorValue Flt))
    (info : BasicSensorInfo Flt Dbl) :
    IsJoined fltEpsilon sensorsValues (entry fltEpsilon sensorsValues info) := by
  constructor
  · intro v hv
    simp only [entry] at hv ⊢
    rw [hv]
    exact ⟨rfl, rfl⟩
  · intro hnone
    simp only [entry] at hnone ⊢
    rw [hnone]
    exact ⟨rfl, rfl⟩

variable {fltEpsilon} in
theorem IsJoined.consistent_iff {sensorsValues : SortedMap ℤ (ImpactSensorValue Flt)}
    {d : BasicSensorValueData Flt Dbl} (h : IsJoined fltEpsilon sensorsValues d) :
    d.value.isInImpact = isSensorValueImpact fltEpsilon d.info ⟨d.value.value⟩ ↔
      (∃ v, sensorsValues.find? d.info.id = some v) ∨
        isSensorValueImpact fltEpsilon d.info ⟨0⟩ = false := by
  cases hfind : sensorsValues.find? d.info.id with
  | some v => exact iff_of_true (h.reading v hfind).2 (.inl ⟨v, rfl⟩)
  | none =>
      obtain ⟨hvalue, hflag⟩ := h.noReading hfind
      rw [hvalue, hflag, eq_comm]
      simp

/-- The array lists the known sensors by increasing id, each joined with its reading. -/
theorem published_joined {known : SortedMap ℤ (BasicSensorInfo Flt Dbl)}
    (hkeyed : ∀ id info, known.find? id = some info → info.id = id)
    (sensorsValues : SortedMap ℤ (ImpactSensorValue Flt)) :
    ∃ valuesData, doPerform fltEpsilon (some sensorsValues) known = .ok (some valuesData) ∧
      valuesData.map (fun d => (d.info.id, d.info)) = known.entries ∧
      (valuesData.map fun d => d.info.id).Pairwise (· < ·) ∧
      ∀ d ∈ valuesData, IsJoined fltEpsilon sensorsValues d ∧
        (d.value.isInImpact = isSensorValueImpact fltEpsilon d.info ⟨d.value.value⟩ ↔
          (∃ v, sensorsValues.find? d.info.id = some v) ∨
            isSensorValueImpact fltEpsilon d.info ⟨0⟩ = false) := by
  have hinfos : (known.entries.map fun e => entry fltEpsilon sensorsValues e.2).map
      (fun d => (d.info.id, d.info)) = known.entries := by
    rw [List.map_map]
    refine (List.map_congr_left fun e he => ?_).trans (List.map_id _)
    have hid := hkeyed e.1 e.2 (SortedMap.find?_eq_some_iff.2 he)
    exact Prod.ext hid rfl
  refine ⟨_, doPerform_some fltEpsilon hkeyed sensorsValues, hinfos, ?_, ?_⟩
  · have hids := congrArg (List.map Prod.fst) hinfos
    rw [List.map_map] at hids
    exact (congrArg (List.Pairwise (· < ·)) hids).mpr (List.pairwise_map.2 known.sorted)
  · intro d hd
    obtain ⟨e, -, rfl⟩ := List.mem_map.1 hd
    have hjoined := isJoined_entry fltEpsilon sensorsValues e.2
    exact ⟨hjoined, hjoined.consistent_iff⟩

def bumper : SortedMap ℤ (BasicSensorInfo ℚ ℚ) :=
  SortedMap.empty.alter 5 fun _ => ⟨5, ⟨SensorTypeMsg.bumper⟩, ⟨ImpactTypeMsg.digital⟩, default, 10⟩

theorem bumper_keyed : ∀ id info, bumper.find? id = some info → info.id = id := by
  intro id info hfind
  rw [bumper, SortedMap.find?_alter] at hfind
  split_ifs at hfind with hid
  · obtain rfl := Option.some.inj hfind
    exact hid.symm
  · cases hfind

theorem published_joined_bumper :
    ∃ valuesData, doPerform (1 / 8388608) (some (SortedMap.empty.alter 5 fun _ => ⟨1⟩)) bumper =
        .ok (some valuesData) ∧
      valuesData.map (fun d => (d.info.id, d.info)) = bumper.entries ∧
      (valuesData.map fun d => d.info.id).Pairwise (· < ·) ∧
      ∀ d ∈ valuesData, IsJoined (1 / 8388608) (SortedMap.empty.alter 5 fun _ => ⟨1⟩) d ∧
        (d.value.isInImpact = isSensorValueImpact (1 / 8388608) d.info ⟨d.value.value⟩ ↔
          (∃ v, (SortedMap.empty.alter 5 fun _ => ImpactSensorValue.mk (1 : ℚ)).find? d.info.id =
            some v) ∨ isSensorValueImpact (1 / 8388608) d.info ⟨0⟩ = false) :=
  published_joined (1 / 8388608) bumper_keyed _

/-- Without a reading the bumper's value says impact and its flag does not. -/
theorem bumper_inconsistent : ¬ ∀ (known : SortedMap ℤ (BasicSensorInfo ℚ ℚ))
    (sensorsValues : SortedMap ℤ (ImpactSensorValue ℚ)) (valuesData : List _),
      (∀ id info, known.find? id = some info → info.id = id) →
      doPerform (1 / 8388608) (some sensorsValues) known = .ok (some valuesData) →
        ∀ d ∈ valuesData,
          d.value.isInImpact = isSensorValueImpact (1 / 8388608) d.info ⟨d.value.value⟩ := by
  intro hall
  have hflag : false = decide ((0 : ℚ) < 1 / 8388608) :=
    hall bumper .empty _ bumper_keyed (doPerform_some _ bumper_keyed _) _ List.mem_cons_self
  norm_num at hflag

end ServerBasicSensorsValuesWorker

end Ros2WsDemo

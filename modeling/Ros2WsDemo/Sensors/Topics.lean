import Ros2WsDemo.Sensors.Values

/-!
# The two topics of the sensors

The list of sensors is published only when it changes, the values all the time.  The tables live
as long as the server, also while it reconnects, so whoever keeps the last list can read every
array of values.
-/

namespace Ros2WsDemo.SensorTopics

variable {Flt Dbl : Type}

/-- One of the two workers performs, with the answer of the platform. -/
inductive Turn (Flt Dbl : Type) where
  | info (report : Option (List (ImpactSensorInfo Flt Dbl)))
  | values (sensorsValues : Option (SortedMap ℤ (ImpactSensorValue Flt)))

inductive Publication (Flt Dbl : Type) where
  | info (sensorsInfo : List (BasicSensorInfo Flt Dbl))
  | values (sensorsValues : SortedMap ℤ (ImpactSensorValue Flt))
      (valuesData : List (BasicSensorValueData Flt Dbl))

section Model

variable [LT Flt] [DecidableLT Flt] [Zero Flt] [Zero Dbl] [One Dbl] (sdk : PoseSdk Dbl)
  (fltEpsilon : Flt)

/-- An array of values is recorded with the readings it was made from. -/
def Turn.perform (wkDat : SensorTables Flt Dbl) :
    Turn Flt Dbl → Except Exn (SensorTables Flt Dbl × List (Publication Flt Dbl))
  | info report => do
      let (wkDat, msg) ← ServerBasicSensorsInfoWorker.doPerform sdk report wkDat
      return (wkDat, (msg.map .info).toList)
  | values none => .ok (wkDat, [])
  | values (some sensorsValues) => do
      let msg ← ServerBasicSensorsValuesWorker.doPerform fltEpsilon (some sensorsValues)
        wkDat.rosBasicSensorsInfo
      return (wkDat, (msg.map (.values sensorsValues)).toList)

def run : List (Turn Flt Dbl) → SensorTables Flt Dbl →
    Except Exn (SensorTables Flt Dbl × List (Publication Flt Dbl))
  | [], wkDat => .ok (wkDat, [])
  | turn :: turns, wkDat => do
      let (wkDat, publications) ← turn.perform sdk fltEpsilon wkDat
      let (wkDat, later) ← run turns wkDat
      return (wkDat, publications ++ later)

end Model

/-- The list that was published last; before the first one there are no sensors. -/
def lastInfo (known : List (BasicSensorInfo Flt Dbl)) (publications : List (Publication Flt Dbl)) :
    List (BasicSensorInfo Flt Dbl) :=
  publications.foldl (fun known publication => match publication with
    | .info sensorsInfo => sensorsInfo
    | .values _ _ => known) known

def listed (wkDat : SensorTables Flt Dbl) : List (BasicSensorInfo Flt Dbl) :=
  wkDat.rosBasicSensorsInfo.entries.map Prod.snd

section Readable

variable [LT Flt] [DecidableLT Flt] [Zero Flt] (fltEpsilon : Flt)

/-- Every array of values has an entry for each sensor of the last list, in its order, that says
what the readings say of this sensor. -/
def Readable (known : List (BasicSensorInfo Flt Dbl)) (publications : List (Publication Flt Dbl)) :
    Prop :=
  ∀ before sensorsValues valuesData after,
    publications = before ++ .values sensorsValues valuesData :: after →
      valuesData.map BasicSensorValueData.info = lastInfo known before ∧
        ∀ d ∈ valuesData, ServerBasicSensorsValuesWorker.IsJoined fltEpsilon sensorsValues d

variable {fltEpsilon} {known : List (BasicSensorInfo Flt Dbl)}

theorem readable_nil : Readable fltEpsilon known [] := by
  intro before sensorsValues valuesData after h
  cases before <;> cases h

theorem Readable.cons_info {publications : List (Publication Flt Dbl)}
    {sensorsInfo : List (BasicSensorInfo Flt Dbl)}
    (h : Readable fltEpsilon sensorsInfo publications) :
    Readable fltEpsilon known (.info sensorsInfo :: publications) := by
  intro before sensorsValues valuesData after hsplit
  cases before with
  | nil => cases hsplit
  | cons first before =>
      obtain ⟨rfl, hrest⟩ := List.cons.inj hsplit
      exact h before sensorsValues valuesData after hrest

theorem Readable.cons_values {publications : List (Publication Flt Dbl)}
    {sensorsValues : SortedMap ℤ (ImpactSensorValue Flt)}
    {valuesData : List (BasicSensorValueData Flt Dbl)}
    (hinfo : valuesData.map BasicSensorValueData.info = known)
    (hjoined : ∀ d ∈ valuesData,
      ServerBasicSensorsValuesWorker.IsJoined fltEpsilon sensorsValues d)
    (h : Readable fltEpsilon known publications) :
    Readable fltEpsilon known (.values sensorsValues valuesData :: publications) := by
  intro before sensorsValues' valuesData' after hsplit
  cases before with
  | nil =>
      cases hsplit
      exact ⟨hinfo, hjoined⟩
  | cons first before =>
      obtain ⟨rfl, hrest⟩ := List.cons.inj hsplit
      exact h before sensorsValues' valuesData' after hrest

end Readable

/-! ## Runs -/

section Runs

open ServerBasicSensorsInfoWorker

variable [LT Flt] [DecidableLT Flt] [Zero Flt] [Zero Dbl] [One Dbl] {sdk : PoseSdk Dbl}
  {fltEpsilon : Flt} {wkDat : SensorTables Flt Dbl}

/-- A turn publishes nothing, or a list that is the new table, or values for the table. -/
theorem perform_cases (fltEpsilon : Flt) (h : Consistent sdk wkDat) (turn : Turn Flt Dbl) :
    ∃ wkDat' publications, turn.perform sdk fltEpsilon wkDat = .ok (wkDat', publications) ∧
      Consistent sdk wkDat' ∧
      (publications = [] ∧ wkDat' = wkDat ∨
        publications = [.info (listed wkDat')] ∨
        ∃ sensorsValues valuesData, publications = [.values sensorsValues valuesData] ∧
          wkDat' = wkDat ∧ valuesData.map BasicSensorValueData.info = listed wkDat ∧
          ∀ d ∈ valuesData,
            ServerBasicSensorsValuesWorker.IsJoined fltEpsilon sensorsValues d) := by
  cases turn with
  | info report =>
      cases report with
      | none => exact ⟨wkDat, [], rfl, h, Or.inl ⟨rfl, rfl⟩⟩
      | some l =>
          obtain ⟨-, hperform⟩ | ⟨-, hperform⟩ := doPerform_some h l
          · refine ⟨wkDat, [], ?_, h, Or.inl ⟨rfl, rfl⟩⟩
            rw [Turn.perform, hperform]
            rfl
          · refine ⟨⟨getSensorsInfo l, (getSensorsInfo l).mapVal (toMsg sdk)⟩, _, ?_,
              ⟨keyed_getSensorsInfo l, rfl⟩, Or.inr (Or.inl rfl)⟩
            rw [Turn.perform, hperform]
            rfl
  | values sensorsValues =>
      cases sensorsValues with
      | none => exact ⟨wkDat, [], rfl, h, Or.inl ⟨rfl, rfl⟩⟩
      | some sensorsValues =>
          have hperform := ServerBasicSensorsValuesWorker.doPerform_some fltEpsilon h.ros_keyed
            sensorsValues
          refine ⟨wkDat, [.values sensorsValues (wkDat.rosBasicSensorsInfo.entries.map fun e =>
            ServerBasicSensorsValuesWorker.entry fltEpsilon sensorsValues e.2)], ?_, h,
            Or.inr (Or.inr ⟨sensorsValues, _, rfl, rfl, ?_, ?_⟩)⟩
          · rw [Turn.perform, hperform]
            rfl
          · rw [listed, List.map_map]
            rfl
          · intro d hd
            obtain ⟨e, -, rfl⟩ := List.mem_map.mp hd
            exact ServerBasicSensorsValuesWorker.isJoined_entry fltEpsilon sensorsValues e.2

theorem run_readable (h : Consistent sdk wkDat) (turns : List (Turn Flt Dbl)) :
    ∃ wkDat' publications, run sdk fltEpsilon turns wkDat = .ok (wkDat', publications) ∧
      Readable fltEpsilon (listed wkDat) publications := by
  induction turns generalizing wkDat with
  | nil => exact ⟨wkDat, [], rfl, readable_nil⟩
  | cons turn turns ih =>
      obtain ⟨wkDat₁, now, hturn, h₁, hcases⟩ := perform_cases fltEpsilon h turn
      obtain ⟨wkDat₂, later, hrun, hreadable⟩ := ih h₁
      refine ⟨wkDat₂, now ++ later, ?_, ?_⟩
      · rw [run, hturn]
        simp only [except_ok_bind, hrun]
        rfl
      · obtain ⟨rfl, rfl⟩ | rfl | ⟨sensorsValues, valuesData, rfl, rfl, hinfo, hjoined⟩ := hcases
        · exact hreadable
        · exact hreadable.cons_info
        · exact hreadable.cons_values hinfo hjoined

/-- Whatever the platform answers, and in whatever order the two workers perform, no assertion
fails, and every array of values is about the list that was published last. -/
theorem values_readable (sdk : PoseSdk Dbl) (fltEpsilon : Flt) (turns : List (Turn Flt Dbl)) :
    ∃ wkDat publications, run sdk fltEpsilon turns ⟨.empty, .empty⟩ = .ok (wkDat, publications) ∧
      Readable fltEpsilon [] publications :=
  run_readable (consistent_empty sdk) turns

end Runs

end Ros2WsDemo.SensorTopics

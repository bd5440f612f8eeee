import Ros2WsDemo.Convert.Messages
import Mathlib.Data.List.Induction

/-!
# The table of sensors

`ServerBasicSensorsInfoWorker` keeps the sensors the robot has reported and, beside them,
their conversion to messages.  Both are replaced together, but only when a comparison with
the stored sensors finds a difference.
-/

namespace Ros2WsDemo

variable {Flt Dbl : Type}

/-- The two tables of `ServerWorkData`. -/
structure SensorTables (Flt Dbl : Type) where
  sensorsInfo : SortedMap ℤ (ImpactSensorInfo Flt Dbl)
  rosBasicSensorsInfo : SortedMap ℤ (BasicSensorInfo Flt Dbl)

/-- What the worker uses of the SDK: the conversion of rotations and `Pose::operator==`. -/
structure PoseSdk (Dbl : Type) where
  rotation : MsgConvert (QuaternionMsg Dbl) (Rotation Dbl)
  poseEq : Pose Dbl → Pose Dbl → Bool

namespace ServerBasicSensorsInfoWorker

def getSensorsInfo (vSensorsInfo : List (ImpactSensorInfo Flt Dbl)) :
    SortedMap ℤ (ImpactSensorInfo Flt Dbl) :=
  vSensorsInfo.foldl (fun sensorsInfo info => sensorsInfo.alter info.id fun o => o.getD info)
    .empty

variable (sdk : PoseSdk Dbl)

/-- The loop of `isSensorsInfoAsTheSame_` over the first table. -/
def entriesAsTheSame (sensorsInfoB : SortedMap ℤ (ImpactSensorInfo Flt Dbl)) :
    List (ℤ × ImpactSensorInfo Flt Dbl) → Except Exn Bool
  | [] => .ok true
  | (first, rcInfoA) :: rest => do
      boostAssert (rcInfoA.id = first) "rcInfoA.id == citA->first"
      match sensorsInfoB.find? rcInfoA.id with
      | none => return false
      | some rcInfoB =>
          boostAssert (rcInfoB.id = rcInfoA.id) "rcInfoB.id == citB->first"
          if rcInfoA.coreSensorType ≠ rcInfoB.coreSensorType then return false
          if rcInfoA.type ≠ rcInfoB.type then return false
          if !sdk.poseEq rcInfoA.pose rcInfoB.pose then return false
          entriesAsTheSame sensorsInfoB rest

def isSensorsInfoAsTheSame (sensorsInfoA sensorsInfoB : SortedMap ℤ (ImpactSensorInfo Flt Dbl)) :
    Except Exn Bool :=
  if sensorsInfoB.size ≠ sensorsInfoA.size then .ok false
  else entriesAsTheSame sdk sensorsInfoB sensorsInfoA.entries

section DoPerform

variable [Zero Flt] [Zero Dbl] [One Dbl]

/-- The report is `none` when the call of the platform fails; the published message is `none`
when nothing is published. -/
def doPerform (report : Option (List (ImpactSensorInfo Flt Dbl))) (wkDat : SensorTables Flt Dbl) :
    Except Exn (SensorTables Flt Dbl × Option (List (BasicSensorInfo Flt Dbl))) :=
  match report with
  | none => .ok (wkDat, none)
  | some vSensorsInfo => do
      let sensorsInfo := getSensorsInfo vSensorsInfo
      if ← isSensorsInfoAsTheSame sdk wkDat.sensorsInfo sensorsInfo then return (wkDat, none)
      let rosBasicSensorsInfo :=
        (MsgConvert.map (MsgConvert.basicSensorInfo sdk.rotation)).toRos sensorsInfo
          wkDat.rosBasicSensorsInfo
      let msgSensorsInfo ← rosBasicSensorsInfo.entries.mapM fun (first, rcRosInfo) => do
        boostAssert (rcRosInfo.id = first) "rcRosInfo.id == cit->first"
        return rcRosInfo
      return (⟨sensorsInfo, rosBasicSensorsInfo⟩, some msgSensorsInfo)

def run (reports : List (Option (List (ImpactSensorInfo Flt Dbl)))) :
    Except Exn (SensorTables Flt Dbl) :=
  reports.foldlM (fun wkDat report => Prod.fst <$> doPerform sdk report wkDat)
    ⟨.empty, .empty⟩

end DoPerform

/-! ## The comparison -/

def Keyed (m : SortedMap ℤ (ImpactSensorInfo Flt Dbl)) : Prop :=
  ∀ id info, m.find? id = some info → info.id = id

theorem find?_getSensorsInfo (l : List (ImpactSensorInfo Flt Dbl)) (id : ℤ) :
    (getSensorsInfo l).find? id = l.find? fun info => info.id = id :=
  SortedMap.find?_foldl_insert ImpactSensorInfo.id l .empty id

theorem keyed_getSensorsInfo (l : List (ImpactSensorInfo Flt Dbl)) : Keyed (getSensorsInfo l) := by
  intro id info hfind
  rw [find?_getSensorsInfo] at hfind
  have hid := List.find?_some hfind
  exact of_decide_eq_true hid

/-- The sensors agree in all that the comparison looks at. -/
def Agree (a b : ImpactSensorInfo Flt Dbl) : Prop :=
  a.coreSensorType = b.coreSensorType ∧ a.type = b.type ∧ sdk.poseEq a.pose b.pose = true

/-- The tables have the same ids, and the sensors agree. -/
structure AsTheSame (A B : SortedMap ℤ (ImpactSensorInfo Flt Dbl)) : Prop where
  keys : A.keys = B.keys
  agree : ∀ id a b, A.find? id = some a → B.find? id = some b → Agree sdk a b

theorem entriesAsTheSame_spec {B : SortedMap ℤ (ImpactSensorInfo Flt Dbl)} (hB : Keyed B)
    {es : List (ℤ × ImpactSensorInfo Flt Dbl)} (hes : ∀ e ∈ es, e.2.id = e.1) :
    ∃ same, entriesAsTheSame sdk B es = .ok same ∧
      (same = true ↔ ∀ e ∈ es, ∃ b, B.find? e.1 = some b ∧ Agree sdk e.2 b) := by
  induction es with
  | nil => exact ⟨true, rfl, by simp⟩
  | cons e es ih =>
      obtain ⟨first, a⟩ := e
      rw [List.forall_mem_cons] at hes
      obtain ⟨hid, hes⟩ := hes
      obtain ⟨same, hrun, hsame⟩ := ih hes
      rw [entriesAsTheSame, boostAssert_of hid, except_ok_bind, hid]
      cases hfind : B.find? first with
      | none => exact ⟨false, rfl, by simp [hfind]⟩
      | some b =>
          have hagree : (∀ e ∈ (first, a) :: es, ∃ b, B.find? e.1 = some b ∧ Agree sdk e.2 b) ↔
              Agree sdk a b ∧ same = true := by
            rw [List.forall_mem_cons, hsame, hfind]
            simp
          rw [hagree, Agree]
          simp only [boostAssert_of (hB first b hfind), except_ok_bind]
          by_cases hcore : a.coreSensorType = b.coreSensorType
          · by_cases htype : a.type = b.type
            · cases hpose : sdk.poseEq a.pose b.pose with
              | false => exact ⟨false, by simp [hcore, htype]; rfl, by simp⟩
              | true => exact ⟨same, by simp [hcore, htype, hrun], by simp [hcore, htype]⟩
            · exact ⟨false, by simp [hcore, htype]; rfl, by simp [htype]⟩
          · exact ⟨false, by simp [hcore]; rfl, by simp [hcore]⟩

theorem isSensorsInfoAsTheSame_spec {A B : SortedMap ℤ (ImpactSensorInfo Flt Dbl)} (hA : Keyed A)
    (hB : Keyed B) :
    ∃ same, isSensorsInfoAsTheSame sdk A B = .ok same ∧ (same = true ↔ AsTheSame sdk A B) := by
  rw [isSensorsInfoAsTheSame]
  split_ifs with hsize
  · refine ⟨false, rfl, ?_⟩
    simp only [Bool.false_eq_true, false_iff]
    intro hsame
    have hlength := congrArg List.length hsame.keys
    simp only [SortedMap.keys, List.length_map] at hlength
    exact hsize hlength.symm
  · obtain ⟨same, hrun, hsame⟩ := entriesAsTheSame_spec sdk hB fun e (he : e ∈ A.entries) =>
      hA e.1 e.2 (SortedMap.find?_eq_some_iff.2 he)
    refine ⟨same, hrun, hsame.trans ⟨fun hall => ⟨?_, ?_⟩, fun hsame e he => ?_⟩⟩
    · refine SortedMap.keys_eq_of_subset (not_not.1 hsize).symm fun id hid => ?_
      obtain ⟨a, ha⟩ := SortedMap.mem_keys_iff.1 hid
      obtain ⟨b, hb, -⟩ := hall (id, a) (SortedMap.find?_eq_some_iff.1 ha)
      exact SortedMap.mem_keys_iff.2 ⟨b, hb⟩
    · intro id a b ha hb
      obtain ⟨b', hb', hagree⟩ := hall (id, a) (SortedMap.find?_eq_some_iff.1 ha)
      rw [hb, Option.some.injEq] at hb'
      rwa [hb']
    · have ha := SortedMap.find?_eq_some_iff.2 he
      have hmem : e.1 ∈ B.keys := hsame.keys ▸ SortedMap.mem_keys_iff.2 ⟨e.2, ha⟩
      obtain ⟨b, hb⟩ := SortedMap.mem_keys_iff.1 hmem
      exact ⟨b, hb, hsame.agree e.1 e.2 b ha hb⟩

/-! ## One call of the worker -/

theorem publish_eq {es : List (ℤ × BasicSensorInfo Flt Dbl)} (hes : ∀ e ∈ es, e.2.id = e.1) :
    (es.mapM fun (first, rcRosInfo) => do
        boostAssert (rcRosInfo.id = first) "rcRosInfo.id == cit->first"
        return rcRosInfo) = .ok (es.map Prod.snd) := by
  refine mapM_ok fun e he => ?_
  obtain ⟨first, rcRosInfo⟩ := e
  have hid : rcRosInfo.id = first := hes _ he
  simp only [boostAssert_of hid]
  rfl

section Steps

variable [Zero Flt] [Zero Dbl] [One Dbl]

def toMsg (info : ImpactSensorInfo Flt Dbl) : BasicSensorInfo Flt Dbl :=
  (MsgConvert.basicSensorInfo sdk.rotation).toRos info default

/-- The messages are those of the first sensor of each id in the list. -/
def Converts (l : List (ImpactSensorInfo Flt Dbl))
    (rosBasicSensorsInfo : SortedMap ℤ (BasicSensorInfo Flt Dbl)) : Prop :=
  ∀ id, rosBasicSensorsInfo.find? id = (l.find? fun info => info.id = id).map (toMsg sdk)

/-- The comparison finds no difference, but a sensor has another refresh frequency, or a pose
that compares equal and is converted to something else. -/
def Overlooks (A B : SortedMap ℤ (ImpactSensorInfo Flt Dbl)) : Prop :=
  AsTheSame sdk A B ∧ ∃ id a b, A.find? id = some a ∧ B.find? id = some b ∧
    (a.refreshFreq ≠ b.refreshFreq ∨
      (MsgConvert.pose sdk.rotation).toRos a.pose default ≠
        (MsgConvert.pose sdk.rotation).toRos b.pose default)

structure Consistent (wkDat : SensorTables Flt Dbl) : Prop where
  keyed : Keyed wkDat.sensorsInfo
  ros : wkDat.rosBasicSensorsInfo = wkDat.sensorsInfo.mapVal (toMsg sdk)

variable {sdk}

theorem converts_mapVal_iff {l : List (ImpactSensorInfo Flt Dbl)}
    {A : SortedMap ℤ (ImpactSensorInfo Flt Dbl)} :
    Converts sdk l (A.mapVal (toMsg sdk)) ↔
      ∀ id, (A.find? id).map (toMsg sdk) = ((getSensorsInfo l).find? id).map (toMsg sdk) := by
  simp only [Converts, SortedMap.find?_mapVal, find?_getSensorsInfo]

theorem toMsg_eq_iff {a b : ImpactSensorInfo Flt Dbl} (hid : a.id = b.id) (h : Agree sdk a b) :
    toMsg sdk a = toMsg sdk b ↔ a.refreshFreq = b.refreshFreq ∧
      (MsgConvert.pose sdk.rotation).toRos a.pose default =
        (MsgConvert.pose sdk.rotation).toRos b.pose default := by
  obtain ⟨hcore, htype, -⟩ := h
  simp only [toMsg, MsgConvert.basicSensorInfo, hid, hcore, htype, BasicSensorInfo.mk.injEq,
    true_and]
  exact and_comm

/-- Where nothing new is found, the old messages are right exactly when nothing was
overlooked. -/
theorem converts_iff_of_asTheSame {l : List (ImpactSensorInfo Flt Dbl)}
    {A : SortedMap ℤ (ImpactSensorInfo Flt Dbl)} (hA : Keyed A)
    (hsame : AsTheSame sdk A (getSensorsInfo l)) :
    Converts sdk l (A.mapVal (toMsg sdk)) ↔ ¬Overlooks sdk A (getSensorsInfo l) := by
  have hmsg : ∀ id a b, A.find? id = some a → (getSensorsInfo l).find? id = some b →
      (toMsg sdk a = toMsg sdk b ↔ ¬(a.refreshFreq ≠ b.refreshFreq ∨
        (MsgConvert.pose sdk.rotation).toRos a.pose default ≠
          (MsgConvert.pose sdk.rotation).toRos b.pose default)) := by
    intro id a b ha hb
    have hid : a.id = b.id := (hA id a ha).trans (keyed_getSensorsInfo l id b hb).symm
    rw [toMsg_eq_iff hid (hsame.agree id a b ha hb), not_or, not_not, not_not]
  rw [converts_mapVal_iff]
  constructor
  · rintro hall ⟨-, id, a, b, ha, hb, hdiff⟩
    have hid := hall id
    rw [ha, hb, Option.map_some, Option.map_some, Option.some.injEq] at hid
    exact (hmsg id a b ha hb).1 hid hdiff
  · intro hnot id
    have hmem : id ∈ A.keys ↔ id ∈ (getSensorsInfo l).keys := by rw [hsame.keys]
    rw [SortedMap.mem_keys_iff, SortedMap.mem_keys_iff] at hmem
    cases ha : A.find? id with
    | none =>
        cases hb : (getSensorsInfo l).find? id with
        | none => rfl
        | some b =>
            obtain ⟨a, ha'⟩ := hmem.2 ⟨b, hb⟩
            cases ha.symm.trans ha'
    | some a =>
        obtain ⟨b, hb⟩ := hmem.1 ⟨a, ha⟩
        have heq := (hmsg id a b ha hb).2 fun hdiff => hnot ⟨hsame, id, a, b, ha, hb, hdiff⟩
        rw [hb, Option.map_some, Option.map_some, heq]

theorem Consistent.ros_keyed {wkDat : SensorTables Flt Dbl} (h : Consistent sdk wkDat) :
    ∀ id msg, wkDat.rosBasicSensorsInfo.find? id = some msg → msg.id = id := by
  intro id msg hfind
  rw [h.ros, SortedMap.find?_mapVal, Option.map_eq_some_iff] at hfind
  obtain ⟨info, hinfo, rfl⟩ := hfind
  exact h.keyed id info hinfo

theorem doPerform_some {wkDat : SensorTables Flt Dbl} (h : Consistent sdk wkDat)
    (l : List (ImpactSensorInfo Flt Dbl)) :
    (AsTheSame sdk wkDat.sensorsInfo (getSensorsInfo l) ∧
        doPerform sdk (some l) wkDat = .ok (wkDat, none)) ∨
      (¬AsTheSame sdk wkDat.sensorsInfo (getSensorsInfo l) ∧
        doPerform sdk (some l) wkDat =
          .ok (⟨getSensorsInfo l, (getSensorsInfo l).mapVal (toMsg sdk)⟩,
            some (((getSensorsInfo l).mapVal (toMsg sdk)).entries.map Prod.snd))) := by
  have hnew : Consistent sdk ⟨getSensorsInfo l, (getSensorsInfo l).mapVal (toMsg sdk)⟩ :=
    ⟨keyed_getSensorsInfo l, rfl⟩
  obtain ⟨same, hrun, hsame⟩ := isSensorsInfoAsTheSame_spec sdk h.keyed hnew.keyed
  rw [doPerform, hrun, except_ok_bind]
  cases same with
  | true => exact .inl ⟨hsame.1 rfl, rfl⟩
  | false =>
      refine .inr ⟨fun hyes => Bool.false_ne_true (hsame.2 hyes), ?_⟩
      simp only [Bool.false_eq_true, if_false, MsgConvert.map_toRos]
      change (do
        let msgSensorsInfo ← ((getSensorsInfo l).mapVal (toMsg sdk)).entries.mapM _
        return (_, some msgSensorsInfo)) = _
      rw [publish_eq fun e he => hnew.ros_keyed e.1 e.2 (SortedMap.find?_eq_some_iff.2 he)]
      rfl

/-! ## Runs -/

variable (sdk)

/-- After each call that got a list, the messages are those of the list. -/
def Follows (reports : List (Option (List (ImpactSensorInfo Flt Dbl)))) : Prop :=
  ∀ past l future, reports = past ++ some l :: future →
    ∃ wkDat, run sdk (past ++ [some l]) = .ok wkDat ∧ Converts sdk l wkDat.rosBasicSensorsInfo

/-- No call gets a list that the comparison takes for the stored one by mistake. -/
def NeverOverlooks (reports : List (Option (List (ImpactSensorInfo Flt Dbl)))) : Prop :=
  ∀ past l future, reports = past ++ some l :: future →
    ∀ wkDat, run sdk past = .ok wkDat → ¬Overlooks sdk wkDat.sensorsInfo (getSensorsInfo l)

theorem consistent_empty : Consistent sdk (⟨.empty, .empty⟩ : SensorTables Flt Dbl) :=
  ⟨fun _ _ h => (nomatch h), rfl⟩

variable {sdk}

theorem doPerform_consistent {wkDat : SensorTables Flt Dbl} (h : Consistent sdk wkDat)
    (report : Option (List (ImpactSensorInfo Flt Dbl))) :
    ∃ wkDat' msg, doPerform sdk report wkDat = .ok (wkDat', msg) ∧ Consistent sdk wkDat' := by
  cases report with
  | none => exact ⟨wkDat, none, rfl, h⟩
  | some l =>
      obtain ⟨-, hrun⟩ | ⟨-, hrun⟩ := doPerform_some h l
      · exact ⟨_, _, hrun, h⟩
      · exact ⟨_, _, hrun, keyed_getSensorsInfo l, rfl⟩

theorem run_snoc (past : List (Option (List (ImpactSensorInfo Flt Dbl))))
    (report : Option (List (ImpactSensorInfo Flt Dbl))) :
    run sdk (past ++ [report]) =
      run sdk past >>= fun wkDat => Prod.fst <$> doPerform sdk report wkDat := by
  simp [run]

/-- No assertion fails in any run. -/
theorem run_consistent (reports : List (Option (List (ImpactSensorInfo Flt Dbl)))) :
    ∃ wkDat, run sdk reports = .ok wkDat ∧ Consistent sdk wkDat := by
  induction reports using List.reverseRecOn with
  | nil => exact ⟨_, rfl, consistent_empty sdk⟩
  | append_singleton past report ih =>
      obtain ⟨wkDat, hrun, h⟩ := ih
      obtain ⟨wkDat', msg, hstep, h'⟩ := doPerform_consistent h report
      exact ⟨wkDat', by rw [run_snoc, hrun, except_ok_bind, hstep]; rfl, h'⟩

theorem converts_doPerform_iff {wkDat wkDat' : SensorTables Flt Dbl} (h : Consistent sdk wkDat)
    {l : List (ImpactSensorInfo Flt Dbl)} {msg : Option (List (BasicSensorInfo Flt Dbl))}
    (hstep : doPerform sdk (some l) wkDat = .ok (wkDat', msg)) :
    Converts sdk l wkDat'.rosBasicSensorsInfo ↔
      ¬Overlooks sdk wkDat.sensorsInfo (getSensorsInfo l) := by
  obtain ⟨hsame, hrun⟩ | ⟨hdiff, hrun⟩ := doPerform_some h l
  · obtain ⟨rfl, -⟩ := Prod.mk.inj (Except.ok.inj (hrun.symm.trans hstep))
    rw [h.ros]
    exact converts_iff_of_asTheSame h.keyed hsame
  · obtain ⟨rfl, -⟩ := Prod.mk.inj (Except.ok.inj (hrun.symm.trans hstep))
    rw [converts_mapVal_iff]
    exact iff_of_true (fun _ => rfl) fun hover => hdiff hover.1

theorem follows_iff_neverOverlooks (reports : List (Option (List (ImpactSensorInfo Flt Dbl)))) :
    Follows sdk reports ↔ NeverOverlooks sdk reports := by
  refine forall_congr' fun past => forall_congr' fun l => forall_congr' fun future =>
    imp_congr_right fun _ => ?_
  obtain ⟨wkDat, hrun, h⟩ : ∃ wkDat, run sdk past = .ok wkDat ∧ Consistent sdk wkDat :=
    run_consistent past
  obtain ⟨wkDat', msg, hstep, -⟩ := doPerform_consistent h (some l)
  have hlast : run sdk (past ++ [some l]) = .ok wkDat' := by
    rw [run_snoc, hrun, except_ok_bind, hstep]
    rfl
  have hiff := converts_doPerform_iff h hstep
  constructor
  · rintro ⟨wkDat₁, hrun₁, hconverts⟩ wkDat₂ hrun₂
    obtain rfl := Except.ok.inj (hlast.symm.trans hrun₁)
    obtain rfl := Except.ok.inj (hrun.symm.trans hrun₂)
    exact hiff.1 hconverts
  · intro hnever
    exact ⟨wkDat', hlast, hiff.2 (hnever wkDat hrun)⟩

/-- The same sonar, first at 10 Hz and then at 20 Hz. -/
def retuned : List (Option (List (ImpactSensorInfo ℚ ℚ))) :=
  [some [⟨3, ⟨⟨1, 0, 0⟩, ⟨0, 0, 0⟩⟩, .analog, .sonar, 10⟩],
    some [⟨3, ⟨⟨1, 0, 0⟩, ⟨0, 0, 0⟩⟩, .analog, .sonar, 20⟩]]

theorem retuned_overlooked :
    ¬Follows (⟨MsgConvert.exampleRotation, fun p q => p = q⟩ : PoseSdk ℚ) retuned := by
  intro hall
  obtain ⟨wkDat, hrun, hconverts⟩ := hall (retuned.take 1) _ [] rfl
  have hfreq := congrArg (Option.map BasicSensorInfo.refreshFreq) (hconverts 3)
  obtain rfl := Except.ok.inj hrun
  revert hfreq
  decide

end Steps

end ServerBasicSensorsInfoWorker

end Ros2WsDemo

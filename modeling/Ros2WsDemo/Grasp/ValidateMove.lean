import Ros2WsDemo.Grasp.HeldObject

/-!
# Validation before a move

Which pose entries `_move_pose_from_config` acts on.  An entry is valid if the six numbers
and the gripper value that are used of it are finite; `_normalize_pose_entry` only converts
them with `float()`, which takes NaN and the infinities as well.
-/

namespace Ros2WsDemo.MobileManipulator

open Python ExceptState

section Model

variable {F : Type} [Builtins F]

/-! ## Valid entries -/

/-- The entry under `key`, or under `subkey` of the group there. -/
def entryAt (poseConfig : PoseConfig F) (key : Str) (subkey : Option Str) : Value F :=
  match subkey, (poseConfig.lookup key).getD .none with
  | none, entry => entry
  | some subkey, .dict entries => (entries.lookup subkey).getD .none
  | some _, _ => .none

/-- What is read as the six numbers. -/
def valuesRaw : Value F → Value F
  | .dict entries => ((present entries "pose").or (present entries "joints")).getD .none
  | entry => entry

def gripperRaw : Value F → Option (Value F)
  | .dict entries => present entries "gripper"
  | _ => none

/-- The values of an entry that are converted, if there are six for the motion. -/
def usedValues (entry : Value F) : Option (List (Value F)) :=
  match valuesRaw entry with
  | .list values => if values.length = 6 then some (values ++ (gripperRaw entry).toList) else none
  | _ => none

def Converts (v : Value F) : Prop := ∃ x, v.toFloat = .ok x

/-- `float(v)` is finite: `int` takes it. -/
def FiniteNumber (v : Value F) : Prop := ∃ x, v.toFloat = .ok x ∧ ∃ n, Builtins.toInt x = .ok n

def ValidEntry (entry : Value F) : Prop :=
  ∃ values, usedValues entry = some values ∧ ∀ v ∈ values, FiniteNumber v

/-! ## Conversion -/

def Pose6.toList (p : Pose6 F) : List F := [p.x, p.y, p.z, p.rx, p.ry, p.rz]

def PoseEntry.numbers (entry : PoseEntry F) : List F :=
  entry.values.toList ++ entry.gripper.toList

def ConvertsTo (values : List (Value F)) (xs : List F) : Prop :=
  values.map Value.toFloat = xs.map .ok

theorem ConvertsTo.exists_number {values : List (Value F)} {xs : List F}
    (h : ConvertsTo values xs) {v : Value F} (hv : v ∈ values) : ∃ x ∈ xs, v.toFloat = .ok x := by
  have hmem : v.toFloat ∈ xs.map Except.ok := h ▸ List.mem_map_of_mem hv
  obtain ⟨x, hx, heq⟩ := List.mem_map.1 hmem
  exact ⟨x, hx, heq.symm⟩

theorem ConvertsTo.exists_value {values : List (Value F)} {xs : List F}
    (h : ConvertsTo values xs) {x : F} (hx : x ∈ xs) : ∃ v ∈ values, v.toFloat = .ok x := by
  have hmem : Except.ok x ∈ values.map Value.toFloat := h ▸ List.mem_map_of_mem hx
  exact List.mem_map.1 hmem

theorem returned_orNone {α β : Type} {m : Except Exn α} {f : Option α → Except Exn (Option β)}
    {b : β} (h : orNone m >>= f = .ok (some b)) (hnone : f none = .ok none) :
    ∃ a, m = .ok a ∧ f (some a) = .ok (some b) := by
  obtain ⟨o, ho, h⟩ := ok_bind h
  cases o with
  | none =>
      rw [hnone] at h
      cases h
  | some a =>
      refine ⟨a, ?_, h⟩
      unfold orNone at ho
      split at ho
      · cases ho
        rfl
      · split_ifs at ho
        cases ho

theorem convertsTo_of_normalizeValues {raw : Value F} {p : Pose6 F}
    (h : normalizeValues raw = .ok (some p)) :
    ∃ values, raw = .list values ∧ ConvertsTo values p.toList := by
  unfold normalizeValues at h
  split at h
  · obtain ⟨x, hx, h⟩ := returned_orNone h rfl
    obtain ⟨y, hy, h⟩ := returned_orNone h rfl
    obtain ⟨z, hz, h⟩ := returned_orNone h rfl
    obtain ⟨rx, hrx, h⟩ := returned_orNone h rfl
    obtain ⟨ry, hry, h⟩ := returned_orNone h rfl
    obtain ⟨rz, hrz, h⟩ := returned_orNone h rfl
    cases h
    refine ⟨_, rfl, ?_⟩
    simp [ConvertsTo, Pose6.toList, hx, hy, hz, hrx, hry, hrz]
  · cases h

theorem normalizeValues_of_converts {values : List (Value F)} (hlength : values.length = 6)
    (h : ∀ v ∈ values, Converts v) : ∃ p, normalizeValues (.list values) = .ok (some p) := by
  obtain ⟨a, b, c, d, e, f, rfl⟩ : ∃ a b c d e f, values = [a, b, c, d, e, f] := by
    match values, hlength with
    | [a, b, c, d, e, f], _ => exact ⟨a, b, c, d, e, f, rfl⟩
  simp only [List.forall_mem_cons] at h
  obtain ⟨⟨x, hx⟩, ⟨y, hy⟩, ⟨z, hz⟩, ⟨rx, hrx⟩, ⟨ry, hry⟩, ⟨rz, hrz⟩, -⟩ := h
  refine ⟨⟨x, y, z, rx, ry, rz⟩, ?_⟩
  simp only [normalizeValues, hx, hy, hz, hrx, hry, hrz]
  rfl

omit [Builtins F] in
theorem usedValues_of_list {entry : Value F} {values : List (Value F)}
    (h : valuesRaw entry = .list values) (hlength : values.length = 6) :
    usedValues entry = some (values ++ (gripperRaw entry).toList) := by
  simp [usedValues, h, hlength]

/-- The end of `_normalize_pose_entry`. -/
def normalizedMotion (type : MoveType) (raw : Value F) (gripper : Option F) :
    Except Exn (Option (PoseEntry F)) := do
  let some values ← normalizeValues raw | return none
  return some ⟨type, values, gripper⟩

/-- The motion of a dictionary whose gripper target is converted. -/
def dictMotion (entries : List (Str × Value F)) (gripper : Option F) :
    Except Exn (Option (PoseEntry F)) :=
  match present entries "pose", present entries "joints" with
  | some raw, _ => normalizedMotion .pose raw gripper
  | none, some raw => normalizedMotion .joint raw gripper
  | none, none => .ok none

theorem normalizePoseEntry_dict {entries : List (Str × Value F)} {e : PoseEntry F}
    (h : normalizePoseEntry (.dict entries) = .ok (some e)) :
    ∃ gripper type raw, ConvertsTo (present entries "gripper").toList gripper.toList ∧
      valuesRaw (.dict entries) = raw ∧ (type = .pose ↔ (present entries "pose").isSome) ∧
        normalizedMotion type raw gripper = .ok (some e) := by
  obtain ⟨gripper, hgripper, h⟩ : ∃ gripper : Option F,
      ConvertsTo (present entries "gripper").toList gripper.toList ∧
        dictMotion entries gripper = .ok (some e) := by
    unfold normalizePoseEntry at h
    cases hpresent : present entries "gripper" with
    | none =>
        simp only [hpresent] at h
        exact ⟨none, rfl, h⟩
    | some v =>
        simp only [hpresent] at h
        cases hfloat : v.toFloat with
        | ok x =>
            simp only [hfloat] at h
            exact ⟨some x, by simp [ConvertsTo, hfloat], h⟩
        | error err =>
            simp only [hfloat, orNone] at h
            split_ifs at h <;> cases h
  unfold dictMotion at h
  split at h
  · next raw hpose =>
      exact ⟨gripper, .pose, raw, hgripper, by simp [valuesRaw, hpose], by simp [hpose], h⟩
  · next raw hpose hjoints =>
      exact ⟨gripper, .joint, raw, hgripper, by simp [valuesRaw, hpose, hjoints], by simp [hpose],
        h⟩
  · cases h

theorem convertsTo_of_normalizedMotion {type : MoveType} {raw : Value F} {gripper : Option F}
    {e : PoseEntry F} (h : normalizedMotion type raw gripper = .ok (some e)) :
    ∃ values, raw = .list values ∧ values.length = 6 ∧ e.type = type ∧ e.gripper = gripper ∧
      ConvertsTo values e.values.toList := by
  obtain ⟨o, ho, h⟩ := ok_bind h
  cases o with
  | none => cases h
  | some p =>
      cases h
      obtain ⟨values, rfl, hvalues⟩ := convertsTo_of_normalizeValues ho
      refine ⟨values, rfl, ?_, rfl, rfl, hvalues⟩
      simpa [Pose6.toList] using congrArg List.length hvalues

/-- What an accepted entry gives is the conversion of the values that are used of it. -/
theorem convertsTo_of_normalizePoseEntry {entry : Value F} {e : PoseEntry F}
    (h : normalizePoseEntry entry = .ok (some e)) :
    ∃ values, usedValues entry = some values ∧ ConvertsTo values e.numbers := by
  obtain ⟨gripper, type, raw, hgripper, hraw, h⟩ : ∃ gripper type raw,
      ConvertsTo (gripperRaw entry).toList gripper.toList ∧ valuesRaw entry = raw ∧
        normalizedMotion type raw gripper = .ok (some e) := by
    cases entry with
    | none => cases h
    | dict entries =>
        obtain ⟨gripper, type, raw, hgripper, hraw, -, h⟩ := normalizePoseEntry_dict h
        exact ⟨gripper, type, raw, hgripper, hraw, h⟩
    | list values => exact ⟨none, .pose, _, rfl, rfl, h⟩
    | bool _ | int _ | float _ | str _ => cases h
  obtain ⟨values, rfl, hlength, -, rfl, hvalues⟩ := convertsTo_of_normalizedMotion h
  refine ⟨_, usedValues_of_list hraw hlength, ?_⟩
  rw [ConvertsTo, PoseEntry.numbers, List.map_append, List.map_append, hvalues, hgripper]

theorem normalizePoseEntry_of_converts {entry : Value F} {values : List (Value F)}
    (hused : usedValues entry = some values) (h : ∀ v ∈ values, Converts v) :
    ∃ e, normalizePoseEntry entry = .ok (some e) := by
  unfold usedValues at hused
  split at hused
  · next six hraw =>
      split_ifs at hused with hlength
      cases hused
      rw [List.forall_mem_append] at h
      obtain ⟨hsix, hgripper⟩ := h
      obtain ⟨p, hp⟩ := normalizeValues_of_converts hlength hsix
      cases entry with
      | dict entries =>
          obtain ⟨type, htype⟩ : ∃ type, ∀ gripper : Option F,
              dictMotion entries gripper = .ok (some ⟨type, p, gripper⟩) := by
            simp only [valuesRaw] at hraw
            unfold dictMotion
            cases hpose : present entries "pose" with
            | some raw =>
                rw [hpose] at hraw
                cases hraw
                exact ⟨.pose, fun gripper => by simp only [normalizedMotion, hp]; rfl⟩
            | none =>
                cases hjoints : present entries "joints" with
                | some raw =>
                    rw [hpose, hjoints] at hraw
                    cases hraw
                    exact ⟨.joint, fun gripper => by simp only [normalizedMotion, hp]; rfl⟩
                | none =>
                    rw [hpose, hjoints] at hraw
                    cases hraw
          unfold normalizePoseEntry
          cases hpresent : present entries "gripper" with
          | none =>
              simp only [hpresent]
              exact ⟨_, htype none⟩
          | some v =>
              obtain ⟨x, hx⟩ := hgripper v (by simp [gripperRaw, hpresent])
              simp only [hpresent, hx]
              exact ⟨_, htype (some x)⟩
      | list vs =>
          cases hraw
          exact ⟨⟨.pose, p, none⟩, by simp only [normalizePoseEntry, hp]; rfl⟩
      | none | bool _ | int _ | float _ | str _ => cases hraw
  · cases hused

/-! ## Moves -/

theorem fetchPoseEntry_eq (poseConfig : PoseConfig F) (key : Str) (subkey : Option Str) :
    fetchPoseEntry poseConfig key subkey = normalizePoseEntry (entryAt poseConfig key subkey) := by
  unfold fetchPoseEntry entryAt
  cases subkey with
  | none => rfl
  | some subkey => cases (poseConfig.lookup key).getD .none <;> rfl

variable {poseConfig : PoseConfig F} {key : Str} {subkey : Option Str}

theorem commands_of_rejected (out : Outcomes F) (move : ConfigMove) (s : Arm F)
    (h : ∀ e, normalizePoseEntry (entryAt poseConfig key subkey) ≠ .ok (some e)) :
    ((movePoseFromConfig poseConfig out move key subkey).run.run s).2.commands = s.commands := by
  unfold movePoseFromConfig
  rw [fetchPoseEntry_eq, run_bind]
  cases hentry : normalizePoseEntry (entryAt poseConfig key subkey) with
  | error e => rfl
  | ok r =>
      cases r with
      | none => rfl
      | some e => exact (h e hentry).elim

/-- An accepted entry moves the arm; with a willing robot it is returned if its gripper value
is finite. -/
theorem run_of_accepted {e : PoseEntry F} (out : Outcomes F) (move : ConfigMove) (s : Arm F)
    (h : normalizePoseEntry (entryAt poseConfig key subkey) = .ok (some e)) :
    ∃ r rest s', (movePoseFromConfig poseConfig out move key subkey).run.run s = (.ok r, s') ∧
      s'.commands = s.commands ++ motion e :: rest ∧
      (out.move move = .succeeds → (∀ x ∈ e.gripper, ∃ n, Builtins.toInt x = .ok n) →
        r = some e) := by
  unfold movePoseFromConfig
  rw [fetchPoseEntry_eq, run_bind, h]
  simp only [send, run_ofExcept_ok, run_modify_bind]
  cases hout : out.move move with
  | motionRaises => exact ⟨none, [], _, rfl, rfl, nofun⟩
  | succeeds | gripperRaises =>
      cases hgripper : e.gripper with
      | none => exact ⟨some e, [], _, rfl, rfl, fun _ _ => rfl⟩
      | some x =>
          cases hint : Builtins.toInt x with
          | error err =>
              refine ⟨none, [], _, by simp only [hint]; rfl, rfl, fun _ hfinite => ?_⟩
              obtain ⟨n, hn⟩ := hfinite x rfl
              rw [hint] at hn
              cases hn
          | ok n =>
              refine ⟨_, [.gripper n], _, by simp only [hint]; rfl, by simp, ?_⟩
              first
                | exact fun _ _ => rfl
                | exact nofun

variable (poseConfig key subkey)

/-- For every move, every answer of the robot and every state: commands are sent for a valid
entry only, and a willing robot that is given nothing back has received no command. -/
structure ValidatesFirst : Prop where
  sent : ∀ (out : Outcomes F) (move : ConfigMove) (s : Arm F),
    ((movePoseFromConfig poseConfig out move key subkey).run.run s).2.commands ≠ s.commands →
      ValidEntry (entryAt poseConfig key subkey)
  rejected : ∀ (out : Outcomes F) (move : ConfigMove) (s s' : Arm F), out.move move = .succeeds →
    (movePoseFromConfig poseConfig out move key subkey).run.run s = (.ok none, s') →
      s'.commands = s.commands

/-- An entry is validated first exactly if its used values are finite as soon as they are six
(and a gripper value) that all convert. -/
theorem validatesFirst_iff :
    ValidatesFirst poseConfig key subkey ↔
      ∀ values, usedValues (entryAt poseConfig key subkey) = some values →
        (∀ v ∈ values, Converts v) → ∀ v ∈ values, FiniteNumber v := by
  constructor
  · rintro ⟨hsent, -⟩ values hused hconverts
    obtain ⟨e, he⟩ := normalizePoseEntry_of_converts hused hconverts
    obtain ⟨r, rest, s', hrun, hcommands, -⟩ := run_of_accepted
      ⟨fun _ => .ok (), fun _ => .succeeds, .ok (), .error .typeError⟩ .tableReady Arm.init he
    obtain ⟨values', hused', hfinite⟩ := hsent _ _ _ (by rw [hrun, hcommands]; simp)
    rw [hused] at hused'
    cases hused'
    exact hfinite
  · intro hall
    by_cases haccepted : ∃ e, normalizePoseEntry (entryAt poseConfig key subkey) = .ok (some e)
    · obtain ⟨e, he⟩ := haccepted
      obtain ⟨values, hused, hvalues⟩ := convertsTo_of_normalizePoseEntry he
      have hfinite : ∀ v ∈ values, FiniteNumber v := by
        refine hall values hused fun v hv => ?_
        obtain ⟨x, -, hx⟩ := hvalues.exists_number hv
        exact ⟨x, hx⟩
      refine ⟨fun _ _ _ _ => ⟨values, hused, hfinite⟩, fun out move s s' hsucceeds hrun => ?_⟩
      obtain ⟨r, rest, s'', hrun', -, hreturned⟩ := run_of_accepted out move s he
      have hgripper : ∀ x ∈ e.gripper, ∃ n, Builtins.toInt x = .ok n := by
        intro x hx
        obtain ⟨v, hv, hvx⟩ := hvalues.exists_value (x := x)
          (List.mem_append_right _ (Option.mem_toList.2 hx))
        obtain ⟨y, hvy, hy⟩ := hfinite v hv
        rw [hvx] at hvy
        cases hvy
        exact hy
      rw [hrun'] at hrun
      cases hrun
      cases hreturned hsucceeds hgripper
    · rw [not_exists] at haccepted
      refine ⟨fun out move s hne => (hne (commands_of_rejected out move s haccepted)).elim,
        fun out move s s' _ hrun => ?_⟩
      have hcommands := commands_of_rejected out move s haccepted
      rwa [hrun] at hcommands

end Model

/-- Six numbers with a gripper target that is not a number. -/
def nanGripper : PoseConfig Exact :=
  [("table_ready_pose", .dict
    [("pose", .list [.int 1, .int 2, .int 3, .int 4, .int 5, .int 6]), ("gripper", .float .nan)])]

/-- The arm moves before the gripper target turns out to be no integer. -/
theorem moved_before_validation :
    ¬ ∀ (poseConfig : PoseConfig Exact) (key : Str) (subkey : Option Str),
      ValidatesFirst poseConfig key subkey := by
  intro hall
  have hrun : ((movePoseFromConfig nanGripper allSucceed .tableReady "table_ready_pose"
      none).run.run Arm.init).2.commands ≠ [] := by
    have hlength : ((movePoseFromConfig nanGripper allSucceed .tableReady "table_ready_pose"
      none).run.run Arm.init).2.commands.length = 1 := by decide +kernel
    intro hnil
    rw [hnil] at hlength
    cases hlength
  obtain ⟨values, hused, hfinite⟩ :=
    (hall nanGripper "table_ready_pose" none).sent allSucceed .tableReady Arm.init hrun
  have hgripper : Value.float Exact.nan ∈ values := by
    cases hused
    exact List.mem_append_right _ (List.mem_singleton.2 rfl)
  obtain ⟨x, hx, n, hn⟩ := hfinite _ hgripper
  cases hx
  cases hn

end Ros2WsDemo.MobileManipulator

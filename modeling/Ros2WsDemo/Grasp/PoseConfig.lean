import Ros2WsDemo.Grasp.ValidateMove

/-!
# Loading the pose configuration

`load_pose_config` reads a JSON file and completes it from the defaults: a key that is
missing or `null` takes the default, and two dictionaries are combined key by key.
-/

namespace Ros2WsDemo.MobileManipulator

open Python ExceptState

section Model

variable {F : Type}

/-! ## Dictionaries -/

/-- `entries.setdefault(key, v)` -/
def setDefault (entries : List (Str × Value F)) (entry : Str × Value F) : List (Str × Value F) :=
  if (entries.lookup entry.1).isSome then entries else entries ++ [entry]

theorem lookup_cons_ite (k key : Str) (v : Value F) (entries : List (Str × Value F)) :
    ((k, v) :: entries).lookup key = if key = k then some v else entries.lookup key := by
  rw [List.lookup_cons]
  by_cases h : key = k
  · rw [if_pos h, beq_iff_eq.2 h]
  · rw [if_neg h, beq_eq_false_iff_ne.2 h]

theorem lookup_setDefault (entries : List (Str × Value F)) (entry : Str × Value F) (key : Str) :
    (setDefault entries entry).lookup key = (entries.lookup key).or ([entry].lookup key) := by
  obtain ⟨k, v⟩ := entry
  unfold setDefault
  split_ifs with hentry
  · rw [lookup_cons_ite]
    split_ifs with hkey
    · obtain ⟨w, hw⟩ := Option.isSome_iff_exists.1 hentry
      rw [hkey, hw, Option.some_or]
    · rw [List.lookup_nil, Option.or_none]
  · rw [List.lookup_append]

theorem lookup_foldl_setDefault (defaults entries : List (Str × Value F)) (key : Str) :
    (defaults.foldl setDefault entries).lookup key =
      (entries.lookup key).or (defaults.lookup key) := by
  induction defaults generalizing entries with
  | nil => simp
  | cons entry defaults ih =>
      rw [List.foldl_cons, ih, lookup_setDefault, Option.or_assoc, ← List.lookup_append]
      rfl

theorem lookup_setItem (entries : List (Str × Value F)) (key key' : Str) (v : Value F) :
    (setItem entries key v).lookup key' = if key' = key then some v else entries.lookup key' := by
  have hreplace : (entries.map fun e => if e.1 == key then (key, v) else e).lookup key' =
      if key' = key then (entries.lookup key').map fun _ => v else entries.lookup key' := by
    induction entries with
    | nil => simp
    | cons e entries ih =>
        obtain ⟨k, w⟩ := e
        rw [List.map_cons, lookup_cons_ite]
        by_cases hk : k = key
        · subst hk
          simp only [beq_self_eq_true, if_true, lookup_cons_ite, ih]
          split_ifs <;> rfl
        · simp only [beq_eq_false_iff_ne.2 hk, Bool.false_eq_true, if_false, lookup_cons_ite, ih]
          by_cases hkey : key' = k
          · rw [if_pos hkey, if_pos hkey, if_neg (hkey ▸ hk)]
          · rw [if_neg hkey, if_neg hkey]
  have hany : (entries.any fun e => e.1 == key) = true ↔ (entries.lookup key).isSome := by
    rw [List.any_eq_true, List.lookup_isSome_iff]
    exact exists_congr fun e => and_congr_right fun _ => by rw [beq_iff_eq, beq_iff_eq, eq_comm]
  unfold setItem
  split_ifs with hsome hkey hkey
  · obtain ⟨w, hw⟩ := Option.isSome_iff_exists.1 (hany.1 hsome)
    rw [hreplace, if_pos hkey, hkey, hw, Option.map_some]
  · rw [hreplace, if_neg hkey]
  · rw [List.lookup_append, hkey, Option.not_isSome_iff_eq_none.1 (mt hany.2 hsome), Option.none_or,
      List.lookup_cons_self]
  · rw [List.lookup_append, lookup_cons_ite, if_neg hkey, List.lookup_nil, Option.or_none]

/-! ## Entries of a dictionary -/

section Entries

variable [Builtins F]

/-- Joints are moved to only without a pose, and the gripper only if it has a target. -/
theorem shape_of_normalizePoseEntry {entries : List (Str × Value F)} {e : PoseEntry F}
    (h : normalizePoseEntry (.dict entries) = .ok (some e)) :
    (e.type = .pose ↔ (present entries "pose").isSome) ∧
      (e.gripper.isSome ↔ (present entries "gripper").isSome) := by
  obtain ⟨gripper, type, raw, hgripper, -, htype, h⟩ := normalizePoseEntry_dict h
  obtain ⟨-, -, -, rfl, rfl, -⟩ := convertsTo_of_normalizedMotion h
  refine ⟨htype, ?_⟩
  have hlength : (present entries "gripper").toList.length = e.gripper.toList.length := by
    simpa using congrArg List.length hgripper
  cases hpresent : present entries "gripper" <;> cases htarget : e.gripper <;>
    simp [hpresent, htarget] at hlength ⊢

theorem normalizePoseEntry_congr {entries entries' : List (Str × Value F)}
    (h : ∀ key ∈ [Str.ofString "pose", Str.ofString "joints", Str.ofString "gripper"],
      present entries key = present entries' key) :
    normalizePoseEntry (.dict entries) = normalizePoseEntry (.dict entries') := by
  simp only [List.forall_mem_cons] at h
  obtain ⟨hpose, hjoints, hgripper, -⟩ := h
  simp only [normalizePoseEntry, hpose, hjoints, hgripper]

omit [Builtins F] in
/-- Neither `null` nor a key that is not looked at makes a difference. -/
theorem present_foldl_setDefault (defaults entries : List (Str × Value F)) (key : Str)
    (h : (entries.lookup key).isSome ∨ present defaults key = none) :
    present (defaults.foldl setDefault entries) key = present entries key := by
  unfold present at h ⊢
  rw [lookup_foldl_setDefault]
  cases hentry : entries.lookup key with
  | some v => rw [Option.some_or]
  | none =>
      rw [hentry, Option.isSome_none] at h
      rw [Option.none_or, h.resolve_left Bool.false_ne_true, Option.filter_none]

omit [Builtins F] in
theorem lookup_isSome_of_present_iff {defaults entries : List (Str × Value F)} {key : Str}
    (hdefault : (present defaults key).isSome)
    (h : (present entries key).isSome ↔ (present (defaults.foldl setDefault entries) key).isSome) :
    (entries.lookup key).isSome := by
  by_contra hnone
  rw [Option.not_isSome_iff_eq_none] at hnone
  have hfilled : present (defaults.foldl setDefault entries) key = present defaults key := by
    unfold present
    rw [lookup_foldl_setDefault, hnone, Option.none_or]
  have hmissing : present entries key = none := by
    unfold present
    rw [hnone, Option.filter_none]
  rw [hfilled, hmissing] at h
  exact Bool.false_ne_true (h.2 hdefault)

end Entries

/-! ## Loading -/

/-- What the file is: not there, bytes that are not UTF-8, or a text. -/
inductive ConfigFile where
  | missing
  | undecodable
  | text (s : Str)

section Load

variable [Arithmetic F]

/-- The data the defaults are merged into; only a missing file and an error of the JSON
decoder are caught. -/
def readConfig (limit : ℕ) : ConfigFile → Except Exn (Value F)
  | .missing => .ok (.dict defaultConfig)
  | .undecodable => .error .valueError
  | .text s =>
      match Json.loads limit s with
      | .ok data => .ok data
      | .error e => if e.isJsonDecodeError then .ok (.dict defaultConfig) else .error e

/-- One round of the loop over the defaults. -/
def mergeDefault (data : List (Str × Value F)) (entry : Str × Value F) : List (Str × Value F) :=
  match data.lookup entry.1, entry.2 with
  | none, value => setItem data entry.1 value
  | some .none, value => setItem data entry.1 value
  | some (.dict entries), .dict defaults =>
      setItem data entry.1 (.dict (defaults.foldl setDefault entries))
  | some _, .dict defaults => setItem data entry.1 (.dict defaults)
  | some _, _ => data

/-- Nothing but a dictionary takes the assignments of the loop: numbers and `null` have no
`in`, lists and texts no item of that name. -/
def loadPoseConfig (limit : ℕ) (file : ConfigFile) : Except Exn (PoseConfig F) := do
  match ← readConfig limit file with
  | .dict data => return defaultConfig.foldl mergeDefault data
  | _ => throw .typeError

/-! ## The merged dictionary -/

/-- What is found in the end under the key of a default. -/
def merged : Option (Value F) → Value F → Value F
  | none, value => value
  | some .none, value => value
  | some (.dict entries), .dict defaults => .dict (defaults.foldl setDefault entries)
  | some _, .dict defaults => .dict defaults
  | some current, _ => current

omit [Arithmetic F] in
theorem lookup_mergeDefault (data : List (Str × Value F)) (k key : Str) (value : Value F) :
    (mergeDefault data (k, value)).lookup key =
      if key = k then some (merged (data.lookup k) value) else data.lookup key := by
  have hsame {current : Value F} (h : data.lookup k = some current) :
      data.lookup key = if key = k then some current else data.lookup key := by
    split_ifs with hkey
    · rw [hkey, h]
    · rfl
  unfold mergeDefault merged
  cases hdata : data.lookup k with
  | none => simp only [lookup_setItem]
  | some current =>
      cases current with
      | none => simp only [lookup_setItem]
      | dict entries =>
          cases value with
          | dict defaults => simp only [lookup_setItem]
          | none | bool _ | int _ | float _ | str _ | list _ => exact hsame hdata
      | bool _ | int _ | float _ | str _ | list _ =>
          cases value with
          | dict defaults => simp only [lookup_setItem]
          | none | bool _ | int _ | float _ | str _ | list _ => exact hsame hdata

omit [Arithmetic F] in
theorem lookup_foldl_mergeDefault {defaults : List (Str × Value F)}
    (hnodup : (defaults.map Prod.fst).Nodup) (data : List (Str × Value F)) (key : Str) :
    (defaults.foldl mergeDefault data).lookup key =
      match defaults.lookup key with
      | none => data.lookup key
      | some value => some (merged (data.lookup key) value) := by
  induction defaults generalizing data with
  | nil => rfl
  | cons e defaults ih =>
      obtain ⟨k, value⟩ := e
      obtain ⟨hk, hnodup⟩ := List.nodup_cons.1 hnodup
      rw [List.foldl_cons, ih hnodup, lookup_mergeDefault, lookup_cons_ite]
      by_cases hkey : key = k
      · have hnone : defaults.lookup k = none := by
          rw [List.lookup_eq_none_iff]
          intro e he
          have hmem : e.1 ∈ defaults.map Prod.fst := List.mem_map_of_mem he
          rw [bne_iff_ne]
          intro hke
          rw [← hke] at hmem
          exact hk hmem
        subst hkey
        simp only [hnone, if_true]
      · simp only [hkey, if_false]

theorem defaultConfig_nodup : ((defaultConfig (F := F)).map Prod.fst).Nodup := by
  have hkeys : (defaultConfig (F := F)).map Prod.fst =
      [Str.ofString "put_in_pocket", Str.ofString "elevator_observation_ready",
        Str.ofString "elevator_observation_after_press", Str.ofString "out_of_pocket",
        Str.ofString "table_ready_pose"] := rfl
  rw [hkeys]
  decide +kernel

theorem loadPoseConfig_dict {limit : ℕ} {text : Str} {user : List (Str × Value F)}
    (h : Json.loads limit text = .ok (.dict user)) :
    loadPoseConfig limit (.text text) = .ok (defaultConfig.foldl mergeDefault user) := by
  simp only [loadPoseConfig, readConfig, h]
  rfl

/-! ## Entries of the user -/

/-- The default does not change what the entry says: always in a group; for an entry that has
a default it has to be a dictionary, and for the ready pose one in which neither the pose nor
the gripper is left out. -/
def EntryKept (user : List (Str × Value F)) (key : Str) (subkey : Option Str) : Prop :=
  subkey = none → ((defaultConfig (F := F)).lookup key).isSome →
    ∃ entries, user.lookup key = some (.dict entries) ∧ (key = "table_ready_pose" →
      (entries.lookup (Str.ofString "pose")).isSome ∧
        (entries.lookup (Str.ofString "gripper")).isSome)

/-- The defaults are dictionaries without joints, and all but the ready pose without a pose
and without a gripper target of their own. -/
theorem defaultConfig_shape {key : Str} {value : Value F}
    (h : (defaultConfig (F := F)).lookup key = some value) :
    ∃ defaults, value = .dict defaults ∧ present defaults "joints" = none ∧
      ((present defaults "pose").isSome ↔ key = "table_ready_pose") ∧
      ((present defaults "gripper").isSome ↔ key = "table_ready_pose") := by
  simp only [defaultConfig, lookup_cons_ite, List.lookup_nil] at h
  have hother (key : Str) (defaults : List (Str × Value F)) (hkey : key ≠ "table_ready_pose")
      (hjoints : present defaults "joints" = none)
      (hpose : (present defaults "pose").isSome = false)
      (hgripper : (present defaults "gripper").isSome = false) :
      ∃ defaults', Value.dict defaults = .dict defaults' ∧ present defaults' "joints" = none ∧
        ((present defaults' "pose").isSome ↔ key = "table_ready_pose") ∧
        ((present defaults' "gripper").isSome ↔ key = "table_ready_pose") :=
    ⟨defaults, rfl, hjoints, by simp [hpose, hkey], by simp [hgripper, hkey]⟩
  split_ifs at h with h₁ h₂ h₃ h₄ h₅
  · cases h
    exact hother key _ (h₁ ▸ by decide +kernel) rfl rfl rfl
  · cases h
    exact hother key _ (h₂ ▸ by decide +kernel) rfl rfl rfl
  · cases h
    exact hother key _ (h₃ ▸ by decide +kernel) rfl rfl rfl
  · cases h
    exact hother key _ (h₄ ▸ by decide +kernel) rfl rfl rfl
  · cases h
    exact ⟨_, rfl, rfl, iff_of_true rfl h₅, iff_of_true rfl h₅⟩

variable {user : List (Str × Value F)}

theorem lookup_loaded (key : Str) : (defaultConfig.foldl mergeDefault user).lookup key =
    match (defaultConfig (F := F)).lookup key with
    | none => user.lookup key
    | some value => some (merged (user.lookup key) value) :=
  lookup_foldl_mergeDefault defaultConfig_nodup user key

theorem entryAt_loaded_of_subkey {key subkey : Str}
    (h : entryAt user key (some subkey) ≠ .none) :
    entryAt (defaultConfig.foldl mergeDefault user) key (some subkey) =
      entryAt user key (some subkey) := by
  unfold entryAt at h ⊢
  cases huser : user.lookup key with
  | none =>
      rw [huser] at h
      exact (h rfl).elim
  | some current =>
      rw [huser] at h
      simp only [Option.getD_some] at h ⊢
      cases current with
      | dict entries =>
          simp only at h ⊢
          rw [lookup_loaded]
          cases hdefault : (defaultConfig (F := F)).lookup key with
          | none => simp only [huser, Option.getD_some]
          | some value =>
              obtain ⟨defaults, rfl, -⟩ := defaultConfig_shape hdefault
              simp only [huser, merged, Option.getD_some, lookup_foldl_setDefault]
              cases hentry : entries.lookup subkey with
              | none =>
                  rw [hentry] at h
                  exact (h rfl).elim
              | some v => rfl
      | none | bool _ | int _ | float _ | str _ | list _ => exact (h rfl).elim

theorem normalizePoseEntry_completed_iff {key : Str} {entries defaults : List (Str × Value F)}
    {r : PoseEntry F} (hdefault : (defaultConfig (F := F)).lookup key = some (.dict defaults))
    (hentry : normalizePoseEntry (.dict entries) = .ok (some r)) :
    normalizePoseEntry (.dict (defaults.foldl setDefault entries)) = .ok (some r) ↔
      (key = "table_ready_pose" → (entries.lookup (Str.ofString "pose")).isSome ∧
        (entries.lookup (Str.ofString "gripper")).isSome) := by
  obtain ⟨defaults', heq, hjoints, hpose, hgripper⟩ := defaultConfig_shape hdefault
  cases heq
  constructor
  · intro hloaded hkey
    obtain ⟨htype, htarget⟩ := shape_of_normalizePoseEntry hentry
    obtain ⟨htype', htarget'⟩ := shape_of_normalizePoseEntry hloaded
    exact ⟨lookup_isSome_of_present_iff (hpose.2 hkey) (htype.symm.trans htype'),
      lookup_isSome_of_present_iff (hgripper.2 hkey) (htarget.symm.trans htarget')⟩
  · intro hkept
    rw [← hentry]
    refine normalizePoseEntry_congr ?_
    simp only [List.forall_mem_cons, List.not_mem_nil, false_implies, implies_true, and_true]
    refine ⟨present_foldl_setDefault _ _ _ ?_, present_foldl_setDefault _ _ _ (.inr hjoints),
      present_foldl_setDefault _ _ _ ?_⟩
    · by_cases hkey : key = "table_ready_pose"
      · exact .inl (hkept hkey).1
      · exact .inr (by simpa [hkey] using hpose)
    · by_cases hkey : key = "table_ready_pose"
      · exact .inl (hkept hkey).2
      · exact .inr (by simpa [hkey] using hgripper)

theorem normalizePoseEntry_replaced {key : Str} {entry : Value F}
    {defaults : List (Str × Value F)} {r : PoseEntry F}
    (hdefault : (defaultConfig (F := F)).lookup key = some (.dict defaults))
    (hdict : ∀ entries, entry ≠ .dict entries) (hentry : normalizePoseEntry entry = .ok (some r)) :
    normalizePoseEntry (.dict defaults) ≠ .ok (some r) := by
  intro hloaded
  obtain ⟨defaults', heq, -, hpose, hgripper⟩ := defaultConfig_shape hdefault
  cases heq
  obtain ⟨htype, htarget⟩ := shape_of_normalizePoseEntry hloaded
  cases entry with
  | list values =>
      have hmotion : normalizedMotion .pose (.list values) none = .ok (some r) := hentry
      obtain ⟨-, -, -, hpose', hgripper', -⟩ := convertsTo_of_normalizedMotion hmotion
      have hready := hpose.1 (htype.1 hpose')
      have htarget' := htarget.2 (hgripper.2 hready)
      rw [hgripper'] at htarget'
      cases htarget'
  | dict entries => exact hdict entries rfl
  | none | bool _ | int _ | float _ | str _ => cases hentry

/-- Loading keeps what an entry of the user denotes exactly if the entry is in a group, or its
key has no default, or it is a dictionary, which for the ready pose has a pose and a gripper. -/
theorem loadPoseConfig_keeps_iff {limit : ℕ} {text key : Str} {subkey : Option Str}
    {r : PoseEntry F} (htext : Json.loads limit text = .ok (.dict user))
    (hentry : normalizePoseEntry (entryAt user key subkey) = .ok (some r)) :
    (∃ loaded, loadPoseConfig limit (.text text) = .ok loaded ∧
      fetchPoseEntry loaded key subkey = .ok (some r)) ↔ EntryKept user key subkey := by
  have hload : (∃ loaded, loadPoseConfig limit (.text text) = .ok loaded ∧
      fetchPoseEntry loaded key subkey = .ok (some r)) ↔
        normalizePoseEntry (entryAt (defaultConfig.foldl mergeDefault user) key subkey) =
          .ok (some r) := by
    simp [loadPoseConfig_dict htext, fetchPoseEntry_eq]
  rw [hload]
  unfold EntryKept
  cases subkey with
  | some subkey =>
      have hne : entryAt user key (some subkey) ≠ .none := by
        intro hnone
        rw [hnone] at hentry
        cases hentry
      rw [entryAt_loaded_of_subkey hne]
      exact iff_of_true hentry nofun
  | none =>
      simp only [entryAt, forall_const] at hentry ⊢
      rw [lookup_loaded]
      cases hdefault : (defaultConfig (F := F)).lookup key with
      | none => exact iff_of_true hentry nofun
      | some value =>
          obtain ⟨defaults, rfl, -⟩ := defaultConfig_shape hdefault
          cases huser : user.lookup key with
          | none =>
              rw [huser] at hentry
              cases hentry
          | some current =>
              rw [huser, Option.getD_some] at hentry
              cases current with
              | dict entries =>
                  simp only [merged, Option.getD_some, Option.isSome_some, forall_const,
                    normalizePoseEntry_completed_iff hdefault hentry]
                  simp
              | none => cases hentry
              | bool _ | int _ | float _ | str _ | list _ =>
                  refine iff_of_false (normalizePoseEntry_replaced hdefault (by simp) hentry) ?_
                  simp

/-! ## Completeness -/

/-- `config[key][subkey]`, if both are there. -/
def lookupPair (config : List (Str × Value F)) (key subkey : Str) : Option (Value F) :=
  match config.lookup key with
  | some (.dict entries) => entries.lookup subkey
  | _ => none

def ConfigFile.entries (limit : ℕ) : ConfigFile → List (Str × Value F)
  | .text s =>
      match Json.loads limit s with
      | .ok (.dict entries) => entries
      | _ => []
  | _ => []

/-- Loading returns a dictionary in which each default that is missing or `null` in the file
has its built-in value. -/
def LoadsCompletely (F : Type) [Arithmetic F] (limit : ℕ) (file : ConfigFile) : Prop :=
  ∃ loaded : PoseConfig F, loadPoseConfig limit file = .ok loaded ∧
    ∀ key subkey value, lookupPair (defaultConfig (F := F)) key subkey = some value →
      (∀ v, lookupPair (file.entries (F := F) limit) key subkey = some v → isNone v) →
        lookupPair loaded key subkey = some value

/-- The text is not JSON, or it is an object in which no default that has a value is `null`
inside an object. -/
def Completable (F : Type) [Arithmetic F] (limit : ℕ) : ConfigFile → Prop
  | .missing => True
  | .undecodable => False
  | .text s =>
      match (Json.loads limit s : Except Exn (Value F)) with
      | .error e => e.isJsonDecodeError
      | .ok (.dict entries) => ∀ key subkey value,
          lookupPair (defaultConfig (F := F)) key subkey = some value → isNone value = false →
            ∀ v, lookupPair entries key subkey = some v → isNone v = false
      | .ok _ => False

theorem lookupPair_loaded {key subkey : Str} {value : Value F}
    (h : lookupPair (defaultConfig (F := F)) key subkey = some value) :
    lookupPair (defaultConfig.foldl mergeDefault user) key subkey =
      some ((lookupPair user key subkey).getD value) := by
  unfold lookupPair at h ⊢
  split at h
  · next defaults hdefault =>
      rw [lookup_loaded, hdefault]
      cases huser : user.lookup key with
      | none => simp only [merged, h, Option.getD_none]
      | some current =>
          cases current with
          | dict entries =>
              simp only [merged, lookup_foldl_setDefault, h]
              cases entries.lookup subkey <;> rfl
          | none | bool _ | int _ | float _ | str _ | list _ =>
              simp only [merged, h, Option.getD_none]
  · cases h

omit [Arithmetic F] in
theorem eq_none_of_isNone {v : Value F} (h : isNone v = true) : v = .none := by
  cases v <;> first | rfl | cases h

theorem completes_iff (entries : List (Str × Value F)) :
    (∀ key subkey value, lookupPair (defaultConfig (F := F)) key subkey = some value →
      (∀ v, lookupPair entries key subkey = some v → isNone v) →
        lookupPair (defaultConfig.foldl mergeDefault entries) key subkey = some value) ↔
    ∀ key subkey value, lookupPair (defaultConfig (F := F)) key subkey = some value →
      isNone value = false → ∀ v, lookupPair entries key subkey = some v → isNone v = false := by
  constructor
  · intro hall key subkey value hdefault hvalue v hv
    by_contra hnull
    rw [Bool.not_eq_false] at hnull
    have hloaded := hall key subkey value hdefault fun w hw => by
      rw [hv] at hw
      cases hw
      exact hnull
    rw [lookupPair_loaded hdefault, hv, Option.getD_some] at hloaded
    cases hloaded
    rw [hnull] at hvalue
    cases hvalue
  · intro hall key subkey value hdefault hmissing
    rw [lookupPair_loaded hdefault]
    cases hv : lookupPair entries key subkey with
    | none => rfl
    | some v =>
        have hnull := eq_none_of_isNone (hmissing v hv)
        cases hvalue : isNone value with
        | true => rw [Option.getD_some, hnull, eq_none_of_isNone hvalue]
        | false =>
            have hnot := hall key subkey value hdefault hvalue v hv
            rw [hnull] at hnot
            cases hnot

theorem lookupPair_reloaded {key subkey : Str} {value : Value F}
    (h : lookupPair (defaultConfig (F := F)) key subkey = some value) :
    lookupPair (defaultConfig.foldl mergeDefault defaultConfig) key subkey = some value := by
  rw [lookupPair_loaded h, h, Option.getD_some]

theorem loadsCompletely_iff (limit : ℕ) (file : ConfigFile) :
    LoadsCompletely F limit file ↔ Completable F limit file := by
  have hdefaults (h : readConfig (F := F) limit file = .ok (.dict defaultConfig)) :
      LoadsCompletely F limit file :=
    ⟨_, by simp only [loadPoseConfig, h]; rfl, fun _ _ _ hvalue _ => lookupPair_reloaded hvalue⟩
  have hraises {e : Exn} (h : loadPoseConfig (F := F) limit file = .error e) :
      ¬ LoadsCompletely F limit file := by
    rintro ⟨loaded, hloaded, -⟩
    rw [h] at hloaded
    cases hloaded
  cases file with
  | missing => exact iff_of_true (hdefaults rfl) trivial
  | undecodable => exact iff_of_false (hraises rfl) id
  | text s =>
      simp only [Completable]
      cases hs : (Json.loads limit s : Except Exn (Value F)) with
      | error e =>
          simp only
          cases he : e.isJsonDecodeError with
          | true => exact iff_of_true (hdefaults (by simp [readConfig, hs, he])) rfl
          | false =>
              refine iff_of_false (hraises (e := e) ?_) Bool.false_ne_true
              simp only [loadPoseConfig, readConfig, hs, he]
              rfl
      | ok data =>
          cases data with
          | dict entries =>
              simp only
              rw [← completes_iff]
              simp [LoadsCompletely, loadPoseConfig_dict hs, ConfigFile.entries, hs]
          | none | bool _ | int _ | float _ | str _ | list _ =>
              refine iff_of_false (hraises (e := .typeError) ?_) id
              simp only [loadPoseConfig, readConfig, hs]
              rfl

end Load

end Model

def readyType (config : PoseConfig Exact) : Option MoveType :=
  match fetchPoseEntry config "table_ready_pose" none with
  | .ok (some r) => some r.type
  | _ => none

def decoded (text : Str) : List (Str × Value Exact) := ConfigFile.entries 10 (.text text)

def isObject (text : Str) : Bool :=
  match (Json.loads 10 text : Except Exn (Value Exact)) with
  | .ok (.dict _) => true
  | _ => false

theorem loads_of_isObject {text : Str} (h : isObject text = true) :
    Json.loads 10 text = .ok (.dict (decoded text)) := by
  unfold isObject at h
  unfold decoded
  simp only [ConfigFile.entries]
  split at h
  · next entries hloads => rw [hloads]
  · cases h

theorem exists_of_readyType {config : PoseConfig Exact} {type : MoveType}
    (h : readyType config = some type) :
    ∃ r, normalizePoseEntry (entryAt config "table_ready_pose" none) = .ok (some r) ∧
      r.type = type := by
  unfold readyType at h
  rw [fetchPoseEntry_eq] at h
  split at h
  · next r hr => exact ⟨r, hr, Option.some.inj h⟩
  · cases h

def jointsText : Str :=
  "\x7b\"table_ready_pose\":\x7b\"joints\":[1,2,3,4,5,6],\"gripper\":5\x7d\x7d"

/-- A ready pose given by joints and a gripper target is kept if `pose` is there as `null`. -/
def nullPoseText : Str :=
  "\x7b\"table_ready_pose\":\x7b\"joints\":[1,2,3,4,5,6],\"pose\":null,\"gripper\":5\x7d\x7d"

theorem loadPoseConfig_keeps_nullPose : ∃ r,
    normalizePoseEntry (entryAt (decoded nullPoseText) "table_ready_pose" none) = .ok (some r) ∧
      r.type = .joint ∧ ((∃ loaded, loadPoseConfig 10 (.text nullPoseText) = .ok loaded ∧
        fetchPoseEntry loaded "table_ready_pose" none = .ok (some r)) ↔
          EntryKept (decoded nullPoseText) "table_ready_pose" none) := by
  obtain ⟨r, hr, htype⟩ : ∃ r, normalizePoseEntry
      (entryAt (decoded nullPoseText) "table_ready_pose" none) = .ok (some r) ∧ r.type = .joint :=
    exists_of_readyType (by decide +kernel)
  exact ⟨r, hr, htype, loadPoseConfig_keeps_iff (loads_of_isObject (by decide +kernel)) hr⟩

/-- The arm goes to the default pose instead of the joints. -/
theorem joints_replaced : ¬ ∀ (limit : ℕ) (text key : Str) (subkey : Option Str)
    (user : List (Str × Value Exact)) (r : PoseEntry Exact),
      Json.loads limit text = .ok (.dict user) →
        normalizePoseEntry (entryAt user key subkey) = .ok (some r) →
          ∃ loaded, loadPoseConfig limit (.text text) = .ok loaded ∧
            fetchPoseEntry loaded key subkey = .ok (some r) := by
  intro hall
  have hloads : Json.loads 10 jointsText = .ok (.dict (decoded jointsText)) :=
    loads_of_isObject (by decide +kernel)
  obtain ⟨r, hr, htype⟩ : ∃ r, normalizePoseEntry
      (entryAt (decoded jointsText) "table_ready_pose" none) = .ok (some r) ∧ r.type = .joint :=
    exists_of_readyType (by decide +kernel)
  obtain ⟨loaded, hloaded, hfetch⟩ := hall 10 jointsText _ none _ r hloads hr
  have hready : readyType (defaultConfig.foldl mergeDefault (decoded jointsText)) = some .pose := by
    decide +kernel
  have heq := (loadPoseConfig_dict hloads).symm.trans hloaded
  rw [Except.ok.injEq] at heq
  rw [heq, readyType, hfetch, Option.some.injEq, htype] at hready
  cases hready

/-- A list instead of an object. -/
theorem load_raises : ¬ ∀ (limit : ℕ) (file : ConfigFile), LoadsCompletely Exact limit file := by
  intro hall
  obtain ⟨loaded, hloaded, -⟩ := hall 10 (.text "[]")
  cases hloaded

end Ros2WsDemo.MobileManipulator

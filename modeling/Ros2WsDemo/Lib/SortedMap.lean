import Mathlib.Data.List.Sort

/-!
# Maps with increasing keys

Finite maps as `std::map` keeps them: a list of entries with strictly increasing keys, so
that two maps with the same values are equal and their entries are visited in the order of
the keys.
-/

variable {κ α β : Type}

structure SortedMap (κ α : Type) [LinearOrder κ] where
  entries : List (κ × α)
  sorted : entries.Pairwise fun a b => a.1 < b.1

namespace SortedMap

variable [LinearOrder κ]

def empty : SortedMap κ α := ⟨[], List.Pairwise.nil⟩

def find? (m : SortedMap κ α) (k : κ) : Option α := m.entries.lookup k

def size (m : SortedMap κ α) : ℕ := m.entries.length

def keys (m : SortedMap κ α) : List κ := m.entries.map Prod.fst

theorem keys_sortedLT (m : SortedMap κ α) : m.keys.SortedLT :=
  (List.pairwise_map.2 m.sorted).sortedLT

theorem lookup_entries_cons (k k' : κ) (v : α) (es : List (κ × α)) :
    ((k, v) :: es).lookup k' = if k' = k then some v else es.lookup k' := by
  rw [List.lookup_cons]
  by_cases h : k' = k
  · rw [if_pos h, beq_iff_eq.2 h]
  · rw [if_neg h, beq_eq_false_iff_ne.2 h]

theorem find?_eq_some_iff {m : SortedMap κ α} {k : κ} {v : α} :
    m.find? k = some v ↔ (k, v) ∈ m.entries := by
  obtain ⟨entries, hsorted⟩ := m
  simp only [find?]
  induction entries with
  | nil => simp
  | cons e entries ih =>
      obtain ⟨k', v'⟩ := e
      obtain ⟨hlt, hsorted⟩ := List.pairwise_cons.1 hsorted
      rw [List.mem_cons, Prod.mk.injEq, lookup_entries_cons]
      split_ifs with hk
      · subst hk
        have hnot : (k, v) ∉ entries := fun hmem => lt_irrefl k (hlt _ hmem)
        simp [hnot, eq_comm]
      · simp [hk, ih hsorted]

theorem mem_keys_iff {m : SortedMap κ α} {k : κ} : k ∈ m.keys ↔ ∃ v, m.find? k = some v := by
  simp only [find?_eq_some_iff, keys, List.mem_map, Prod.exists, exists_and_right,
    exists_eq_right]

theorem ext {m m' : SortedMap κ α} (h : ∀ k, m.find? k = m'.find? k) : m = m' := by
  have hnodup : ∀ m : SortedMap κ α, m.entries.Nodup := fun m =>
    m.sorted.imp fun {a b} hlt => by
      rintro rfl
      exact lt_irrefl _ hlt
  have hperm : m.entries.Perm m'.entries := by
    rw [List.perm_ext_iff_of_nodup (hnodup m) (hnodup m')]
    rintro ⟨k, v⟩
    rw [← find?_eq_some_iff, ← find?_eq_some_iff, h]
  have heq : m.entries = m'.entries :=
    hperm.eq_of_pairwise (fun a b _ _ hab hba => absurd hab (lt_asymm hba)) m.sorted m'.sorted
  cases m
  cases m'
  congr

/-- A map whose keys all are keys of a map of the same size has the same keys. -/
theorem keys_eq_of_subset {m : SortedMap κ α} {m' : SortedMap κ β} (hsize : m.size = m'.size)
    (h : ∀ k ∈ m.keys, k ∈ m'.keys) : m.keys = m'.keys := by
  have hsub : m.keys.Sublist m'.keys :=
    List.sublist_of_subperm_of_sortedLE
      (List.subperm_of_subset m.keys_sortedLT.nodup fun k hk => h k hk)
      m.keys_sortedLT.sortedLE m'.keys_sortedLT.sortedLE
  refine hsub.eq_of_length ?_
  simpa [keys, size] using hsize

/-! ## Changing one entry -/

def alterEntries (k : κ) (f : Option α → α) : List (κ × α) → List (κ × α)
  | [] => [(k, f none)]
  | e :: es =>
      if k < e.1 then (k, f none) :: e :: es
      else if k = e.1 then (k, f (some e.2)) :: es
      else e :: alterEntries k f es

theorem mem_alterEntries {k : κ} {f : Option α → α} {es : List (κ × α)} {e : κ × α}
    (h : e ∈ alterEntries k f es) : e.1 = k ∨ e ∈ es := by
  induction es with
  | nil =>
      rw [alterEntries, List.mem_singleton] at h
      exact .inl (by rw [h])
  | cons e' es ih =>
      rw [alterEntries] at h
      split_ifs at h with hlt heq
      · rcases List.mem_cons.1 h with rfl | h
        · exact .inl rfl
        · exact .inr h
      · rcases List.mem_cons.1 h with rfl | h
        · exact .inl rfl
        · exact .inr (List.mem_cons_of_mem _ h)
      · rcases List.mem_cons.1 h with rfl | h
        · exact .inr List.mem_cons_self
        · exact (ih h).imp_right (List.mem_cons_of_mem _)

theorem alterEntries_sorted (k : κ) (f : Option α → α) {es : List (κ × α)}
    (h : es.Pairwise fun a b => a.1 < b.1) :
    (alterEntries k f es).Pairwise fun a b => a.1 < b.1 := by
  induction es with
  | nil => exact List.pairwise_singleton _ _
  | cons e es ih =>
      obtain ⟨hlt, hsorted⟩ := List.pairwise_cons.1 h
      rw [alterEntries]
      split_ifs with hk heq
      · refine List.pairwise_cons.2 ⟨fun e' he' => ?_, h⟩
        rcases List.mem_cons.1 he' with rfl | he'
        · exact hk
        · exact hk.trans (hlt e' he')
      · exact List.pairwise_cons.2 ⟨fun e' he' => heq ▸ hlt e' he', hsorted⟩
      · refine List.pairwise_cons.2 ⟨fun e' he' => ?_, ih hsorted⟩
        rcases mem_alterEntries he' with heq' | he'
        · rw [heq']
          exact lt_of_le_of_ne (not_lt.1 hk) (Ne.symm heq)
        · exact hlt e' he'

/-- `m[k] = f(m[k])`, with `none` for a key that is not there. -/
def alter (m : SortedMap κ α) (k : κ) (f : Option α → α) : SortedMap κ α :=
  ⟨alterEntries k f m.entries, alterEntries_sorted k f m.sorted⟩

theorem lookup_alterEntries (k k' : κ) (f : Option α → α) {es : List (κ × α)}
    (h : es.Pairwise fun a b => a.1 < b.1) :
    (alterEntries k f es).lookup k' = if k' = k then some (f (es.lookup k)) else es.lookup k' := by
  induction es with
  | nil => rw [alterEntries, lookup_entries_cons, List.lookup_nil, List.lookup_nil]
  | cons e es ih =>
      obtain ⟨k₀, v₀⟩ := e
      obtain ⟨hlt, hsorted⟩ := List.pairwise_cons.1 h
      simp only [alterEntries, lookup_entries_cons]
      by_cases hk : k < k₀
      · have hnone : es.lookup k = none := by
          rw [List.lookup_eq_none_iff]
          intro e he
          rw [bne_iff_ne]
          exact (hk.trans (hlt e he)).ne
        simp only [if_pos hk, lookup_entries_cons, if_neg hk.ne, hnone]
      · by_cases heq : k = k₀
        · subst heq
          simp only [lt_self_iff_false, if_false, if_true, lookup_entries_cons]
          split_ifs <;> rfl
        · simp only [if_neg hk, if_neg heq, lookup_entries_cons, ih hsorted]
          by_cases hkk : k' = k₀
          · rw [if_pos hkk, if_pos hkk, if_neg (by rintro rfl; exact heq hkk)]
          · rw [if_neg hkk, if_neg hkk]

theorem find?_alter (m : SortedMap κ α) (k k' : κ) (f : Option α → α) :
    (m.alter k f).find? k' = if k' = k then some (f (m.find? k)) else m.find? k' :=
  lookup_alterEntries k k' f m.sorted

/-! ## Maps of values -/

def mapVal (f : α → β) (m : SortedMap κ α) : SortedMap κ β :=
  ⟨m.entries.map fun e => (e.1, f e.2), List.pairwise_map.2 m.sorted⟩

theorem find?_mapVal (f : α → β) (m : SortedMap κ α) (k : κ) :
    (m.mapVal f).find? k = (m.find? k).map f := by
  obtain ⟨entries, hsorted⟩ := m
  simp only [find?, mapVal]
  induction entries with
  | nil => rfl
  | cons e entries ih =>
      rw [List.map_cons, lookup_entries_cons, ih hsorted.of_cons, ← Prod.mk.eta (p := e),
        lookup_entries_cons]
      split_ifs <;> rfl

/-! ## Filling a map -/

/-- Each key of the list once: its value is combined with the one of the map. -/
theorem find?_foldl_alter (g : β → Option α → α) {l : List (κ × β)}
    (hnodup : (l.map Prod.fst).Nodup) (m : SortedMap κ α) (k : κ) :
    (l.foldl (fun m e => m.alter e.1 (g e.2)) m).find? k =
      ((l.lookup k).map fun v => g v (m.find? k)).or (m.find? k) := by
  induction l generalizing m with
  | nil => rfl
  | cons e l ih =>
      obtain ⟨k', v⟩ := e
      obtain ⟨hnot, hnodup⟩ := List.nodup_cons.1 hnodup
      rw [List.foldl_cons, ih hnodup, find?_alter, lookup_entries_cons]
      by_cases hk : k = k'
      · have hnone : l.lookup k' = none := by
          rw [List.lookup_eq_none_iff]
          intro e he
          have hmem : e.1 ∈ l.map Prod.fst := List.mem_map_of_mem he
          rw [bne_iff_ne]
          intro heq
          rw [← heq] at hmem
          exact hnot hmem
        subst hk
        simp [hnone]
      · simp [hk]

/-- A map rebuilt from nothing, entry by entry. -/
theorem foldl_alter_empty (g : β → Option α → α) (m : SortedMap κ β) :
    m.entries.foldl (fun m e => m.alter e.1 (g e.2)) empty = m.mapVal fun v => g v none := by
  refine ext fun k => ?_
  have hempty : (empty : SortedMap κ α).find? k = none := rfl
  rw [find?_foldl_alter g m.keys_sortedLT.nodup, hempty, find?_mapVal, Option.or_none]
  rfl

/-- `insert` of all elements: the first one with a key stays. -/
theorem find?_foldl_insert (key : α → κ) (l : List α) (m : SortedMap κ α) (k : κ) :
    (l.foldl (fun m x => m.alter (key x) fun o => o.getD x) m).find? k =
      (m.find? k).or (l.find? fun x => key x = k) := by
  induction l generalizing m with
  | nil => simp
  | cons x l ih =>
      rw [List.foldl_cons, ih, find?_alter, List.find?_cons]
      by_cases hk : k = key x
      · subst hk
        cases m.find? (key x) <;> simp
      · simp [hk, Ne.symm hk]

end SortedMap

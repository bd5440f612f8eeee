import Mathlib.Data.List.Basic

/-!
# Regular expressions by backtracking

The patterns of a backtracking matcher over any alphabet, and `findall`.  A pattern is
given by what it leaves of a text, for each of its matches at the front of the text, in the
order in which the matcher tries them.
-/

namespace Regex

/-- `many` is the greedy repetition of a character class. -/
inductive Pattern (α : Type) where
  | one (p : α → Bool)
  | many (p : α → Bool)
  | opt (a : Pattern α)
  | seq (a b : Pattern α)
  | alt (a b : Pattern α)

variable {α : Type}

/-- What a greedy repetition may leave: as little as it can, first. -/
def manyEnds (p : α → Bool) : List α → List (List α)
  | [] => [[]]
  | c :: t => if p c then manyEnds p t ++ [c :: t] else [c :: t]

namespace Pattern

/-- The class once or more. -/
def many1 (p : α → Bool) : Pattern α := .seq (.one p) (.many p)

def ends : Pattern α → List α → List (List α)
  | one _, [] => []
  | one p, c :: t => if p c then [t] else []
  | many p, t => manyEnds p t
  | opt a, t => a.ends t ++ [t]
  | seq a b, t => (a.ends t).flatMap b.ends
  | alt a b, t => a.ends t ++ b.ends t

/-- `p.findall(t)`, after the next `skip` characters.  An empty match is one of the results;
behind it, the same place is tried again for a match that is not empty. -/
def findallFrom (p : Pattern α) : ℕ → List α → List (List α)
  | _, [] => ((p.ends []).take 1).map fun _ => []
  | skip + 1, _ :: t => findallFrom p skip t
  | 0, c :: t =>
      let found := p.ends (c :: t)
      let empty := (found.take 1).filter fun r => r.length = (c :: t).length
      let rest := match found.find? fun r => r.length < (c :: t).length with
        | some r => (c :: t).take ((c :: t).length - r.length) ::
            findallFrom p (t.length - r.length) t
        | none => findallFrom p 0 t
      empty.map (fun _ => []) ++ rest

def findall (p : Pattern α) (t : List α) : List (List α) := p.findallFrom 0 t

/-! ## What is left -/

/-- The text does not begin with a character of the class. -/
def Stops (p : α → Bool) (t : List α) : Prop := ∀ c s, t = c :: s → p c = false

theorem stops_nil (p : α → Bool) : Stops p [] := fun _ _ h => nomatch h

theorem stops_cons {p : α → Bool} {c : α} (h : p c = false) (t : List α) : Stops p (c :: t) := by
  rintro _ _ ⟨⟩
  exact h

theorem takeWhile_run {p : α → Bool} {m t : List α} (hm : ∀ c ∈ m, p c = true)
    (ht : Stops p t) : (m ++ t).takeWhile p = m := by
  rw [List.takeWhile_append_of_pos hm]
  cases t with
  | nil => exact List.append_nil m
  | cons c t => rw [List.takeWhile_cons_of_neg (by simp [ht c t rfl]), List.append_nil]

theorem dropWhile_run {p : α → Bool} {m t : List α} (hm : ∀ c ∈ m, p c = true)
    (ht : Stops p t) : (m ++ t).dropWhile p = t := by
  rw [List.dropWhile_append_of_pos hm]
  cases t with
  | nil => rfl
  | cons c t => rw [List.dropWhile_cons_of_neg (by simp [ht c t rfl])]

theorem manyEnds_of_stops {p : α → Bool} {t : List α} (h : Stops p t) : manyEnds p t = [t] := by
  cases t with
  | nil => rfl
  | cons c t => rw [manyEnds, h c t rfl, if_neg Bool.false_ne_true]

theorem ends_one_of_stops {p : α → Bool} {t : List α} (h : Stops p t) : (one p).ends t = [] := by
  cases t with
  | nil => rw [ends]
  | cons c t => rw [ends, h c t rfl, if_neg Bool.false_ne_true]

/-- A repetition takes the whole of a run. -/
theorem head_manyEnds_run {p : α → Bool} {m t : List α} (hm : ∀ c ∈ m, p c = true)
    (ht : Stops p t) : (manyEnds p (m ++ t)).head? = some t := by
  induction m with
  | nil => rw [List.nil_append, manyEnds_of_stops ht, List.head?_cons]
  | cons c m ih =>
      obtain ⟨hc, hm⟩ := List.forall_mem_cons.1 hm
      rw [List.cons_append, manyEnds, if_pos hc, List.head?_append, ih hm, Option.some_or]

/-- Where what comes next cannot begin inside a run, giving back characters is no use. -/
theorem flatMap_manyEnds_run {β : Type} {p : α → Bool} {m t : List α} {k : List α → List β}
    (hm : ∀ c ∈ m, p c = true) (ht : Stops p t) (hk : ∀ c s, p c = true → k (c :: s) = []) :
    (manyEnds p (m ++ t)).flatMap k = k t := by
  induction m with
  | nil => rw [List.nil_append, manyEnds_of_stops ht, List.flatMap_singleton]
  | cons c m ih =>
      obtain ⟨hc, hm⟩ := List.forall_mem_cons.1 hm
      rw [List.cons_append, manyEnds, if_pos hc, List.flatMap_append, ih hm,
        List.flatMap_singleton, hk c _ hc, List.append_nil]

theorem head_many1_run {p : α → Bool} {m t : List α} (hne : m ≠ []) (hm : ∀ c ∈ m, p c = true)
    (ht : Stops p t) : ((many1 p).ends (m ++ t)).head? = some t := by
  obtain ⟨c, m, rfl⟩ := List.exists_cons_of_ne_nil hne
  obtain ⟨hc, hm⟩ := List.forall_mem_cons.1 hm
  rw [List.cons_append, many1, ends, ends, if_pos hc, List.flatMap_singleton, ends]
  exact head_manyEnds_run hm ht

theorem ends_many1_of_stops {p : α → Bool} {t : List α} (h : Stops p t) :
    (many1 p).ends t = [] := by
  rw [many1, ends, ends_one_of_stops h, List.flatMap_nil]

/-! ## Finding all matches -/

theorem findallFrom_skip (p : Pattern α) (m t : List α) :
    p.findallFrom m.length (m ++ t) = p.findallFrom 0 t := by
  induction m with
  | nil => rfl
  | cons c m ih => rw [List.cons_append, List.length_cons, findallFrom, ih]

/-- The first match that the matcher tries is found, and the search goes on behind it. -/
theorem findall_of_match {p : Pattern α} {m t : List α} (hm : m ≠ [])
    (h : (p.ends (m ++ t)).head? = some t) : p.findall (m ++ t) = m :: p.findall t := by
  obtain ⟨c, m, rfl⟩ := List.exists_cons_of_ne_nil hm
  obtain ⟨others, hends⟩ := List.head?_eq_some_iff.1 h
  rw [List.cons_append] at hends
  have hlt : t.length < (c :: (m ++ t)).length := by
    simp only [List.length_cons, List.length_append]
    omega
  have hne : t.length ≠ (c :: (m ++ t)).length := Nat.ne_of_lt hlt
  rw [findall, List.cons_append, findallFrom]
  simp only [hends, List.take_succ_cons, List.take_zero, List.find?_cons, decide_eq_true hlt,
    List.filter_cons, hne, decide_false, Bool.false_eq_true, if_false, List.filter_nil,
    List.map_nil, List.nil_append]
  have htake : (c :: (m ++ t)).length - t.length = (c :: m).length := by
    simp only [List.length_cons, List.length_append]
    omega
  have hskip : (m ++ t).length - t.length = m.length := by simp
  rw [htake, hskip, findallFrom_skip, ← List.cons_append, List.take_left, findall]

/-- A character at which nothing begins is passed over. -/
theorem findall_of_none {p : Pattern α} {c : α} {t : List α} (h : p.ends (c :: t) = []) :
    p.findall (c :: t) = p.findall t := by
  rw [findall, findallFrom]
  simp only [h, List.take_nil, List.filter_nil, List.map_nil, List.nil_append, List.find?_nil]
  rw [findall]

end Pattern

end Regex

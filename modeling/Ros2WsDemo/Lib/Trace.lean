import Mathlib.Data.List.Basic
import Mathlib.Data.List.Induction
import Mathlib.Data.Nat.Find
import Mathlib.Data.Nat.Notation

/-!
# Speaking about the past

Predicates on finite traces of events, addressed by position, and what appending
one event does to them.
-/

namespace Trace

variable {Ev : Type}

theorem getElem?_snoc {tr : List Ev} {e x : Ev} {i : ℕ} :
    (tr ++ [e])[i]? = some x ↔ tr[i]? = some x ∨ (i = tr.length ∧ x = e) := by
  rcases lt_trichotomy i tr.length with h | h | h
  · rw [List.getElem?_append_left h]
    constructor
    · exact Or.inl
    · rintro (hx | ⟨hi, -⟩)
      · exact hx
      · omega
  · subst h
    simp [eq_comm]
  · rw [List.getElem?_eq_none (by simp; omega), List.getElem?_eq_none (Nat.le_of_lt h)]
    simp
    omega

theorem lt_length {tr : List Ev} {i : ℕ} {x : Ev} (h : tr[i]? = some x) : i < tr.length :=
  (List.getElem?_eq_some_iff.mp h).1

theorem getElem?_snoc_of {tr : List Ev} {i : ℕ} {x : Ev} (h : tr[i]? = some x) (e : Ev) :
    (tr ++ [e])[i]? = some x := getElem?_snoc.mpr (Or.inl h)

theorem take_snoc {tr : List Ev} {i : ℕ} {x : Ev} (h : tr[i]? = some x) {e : Ev} :
    (tr ++ [e]).take i = tr.take i :=
  List.take_append_of_le_length (Nat.le_of_lt (lt_length h))

theorem getElem?_take_of_le {tr : List Ev} {k i j : ℕ} {x : Ev} (h : (tr.take i)[k]? = some x)
    (hij : i ≤ j) : (tr.take j)[k]? = some x := by
  rw [List.getElem?_take] at h ⊢
  split_ifs at h with hki
  rw [if_pos (Nat.lt_of_lt_of_le hki hij)]
  exact h

theorem getElem?_eq_of_isPrefix {tr tr' : List Ev} (h : tr <+: tr') {i : ℕ} (hi : i < tr.length) :
    tr'[i]? = tr[i]? := by
  obtain ⟨post, rfl⟩ := h
  exact List.getElem?_append_left hi

/-- The event at a position, and its kind. -/
theorem map_at {K : Type} {kind : Ev → K} {tr : List Ev} {i : ℕ} {e : Ev} (h : tr[i]? = some e) :
    (tr.map kind)[i]? = some (kind e) := by
  rw [List.getElem?_map, h]
  rfl

theorem exists_of_map_at {K : Type} {kind : Ev → K} {tr : List Ev} {i : ℕ} {k : K}
    (h : (tr.map kind)[i]? = some k) : ∃ e, tr[i]? = some e ∧ kind e = k := by
  rw [List.getElem?_map] at h
  exact Option.map_eq_some_iff.mp h

/-- A state that is followed along a trace, one event further. -/
theorem foldl_take_succ {σ : Type} {f : σ → Ev → σ} {s : σ} {tr : List Ev} {t : ℕ} {x : Ev}
    (hx : tr[t]? = some x) : (tr.take (t + 1)).foldl f s = f ((tr.take t).foldl f s) x := by
  rw [List.take_add_one, hx, Option.toList_some, List.foldl_append]
  rfl

/-- What holds at the end but not at the start began to hold with some event, and has held
since. -/
theorem exists_since {σ : Type} {f : σ → Ev → σ} {s : σ} {P : σ → Prop} {tr : List Ev}
    (hs : ¬P s) (h : P (tr.foldl f s)) :
    ∃ k x, tr[k]? = some x ∧ ¬P ((tr.take k).foldl f s) ∧
      ∀ i, k < i → P ((tr.take i).foldl f s) := by
  induction tr using List.reverseRecOn with
  | nil => exact absurd h hs
  | append_singleton tr x ih =>
      have hlast : ∀ i, tr.length < i → (tr ++ [x]).take i = tr ++ [x] := by
        intro i hlt
        apply List.take_of_length_le
        rw [List.length_append, List.length_singleton]
        exact hlt
      by_cases hP : P (tr.foldl f s)
      · obtain ⟨k, y, hy, hbefore, hsince⟩ := ih hP
        refine ⟨k, y, getElem?_snoc_of hy x, ?_, ?_⟩
        · rwa [take_snoc hy]
        · intro i hki
          rcases Nat.lt_or_ge tr.length i with hlt | hle
          · rw [hlast i hlt]
            exact h
          · rw [List.take_append_of_le_length hle]
            exact hsince i hki
      · refine ⟨tr.length, x, getElem?_snoc.mpr (Or.inr ⟨rfl, rfl⟩), ?_, ?_⟩
        · rwa [List.take_left]
        · intro i hlt
          rw [hlast i hlt]
          exact h

/-- Nothing of kind `N` happens after position `l`. -/
def NoneAfter (N : Ev → Prop) (tr : List Ev) (l : ℕ) : Prop :=
  ∀ i x, l < i → tr[i]? = some x → ¬N x

theorem NoneAfter.snoc {N : Ev → Prop} {tr : List Ev} {l : ℕ} (h : NoneAfter N tr l) {e : Ev}
    (he : ¬N e) : NoneAfter N (tr ++ [e]) l := by
  intro i x hi hx
  rcases getElem?_snoc.mp hx with hx | ⟨-, rfl⟩
  · exact h i x hi hx
  · exact he

theorem noneAfter_length (N : Ev → Prop) (tr : List Ev) (e : Ev) :
    NoneAfter N (tr ++ [e]) tr.length := by
  intro i x hi hx
  rcases getElem?_snoc.mp hx with hx | ⟨rfl, -⟩
  · have := lt_length hx
    omega
  · omega

/-- The last event of kind `M` satisfies `P`. -/
def Last (M P : Ev → Prop) (tr : List Ev) : Prop :=
  ∃ l x, tr[l]? = some x ∧ M x ∧ P x ∧ NoneAfter M tr l

theorem Last.snoc {M P : Ev → Prop} {tr : List Ev} (h : Last M P tr) {e : Ev} (he : ¬M e) :
    Last M P (tr ++ [e]) := by
  obtain ⟨l, x, hx, hM, hP, hnone⟩ := h
  exact ⟨l, x, getElem?_snoc_of hx e, hM, hP, hnone.snoc he⟩

theorem last_snoc {M P : Ev → Prop} (tr : List Ev) {e : Ev} (hM : M e) (hP : P e) :
    Last M P (tr ++ [e]) :=
  ⟨tr.length, e, getElem?_snoc.mpr (Or.inr ⟨rfl, rfl⟩), hM, hP, noneAfter_length M tr e⟩

theorem Last.of_snoc {M P : Ev → Prop} {tr : List Ev} {e : Ev} (h : Last M P (tr ++ [e])) :
    (M e ∧ P e) ∨ (¬M e ∧ Last M P tr) := by
  obtain ⟨l, x, hx, hM, hP, hnone⟩ := h
  rcases getElem?_snoc.mp hx with hx | ⟨-, rfl⟩
  · refine Or.inr ⟨?_, l, x, hx, hM, hP, ?_⟩
    · exact hnone tr.length e (lt_length hx) (getElem?_snoc.mpr (Or.inr ⟨rfl, rfl⟩))
    · exact fun i y hi hy => hnone i y hi (getElem?_snoc_of hy e)
  · exact Or.inl ⟨hM, hP⟩

theorem NoneAfter.of_snoc {N : Ev → Prop} {tr : List Ev} {l : ℕ} {e : Ev}
    (h : NoneAfter N (tr ++ [e]) l) (hl : l < tr.length) : NoneAfter N tr l ∧ ¬N e :=
  ⟨fun i y hi hy => h i y hi (getElem?_snoc_of hy e),
    h tr.length e hl (getElem?_snoc.mpr (Or.inr ⟨rfl, rfl⟩))⟩

/-- The last event among more events is the last one among fewer, if it is one of them. -/
theorem Last.of_imp {M M' P : Ev → Prop} {tr : List Ev} (h : Last M P tr)
    (hM : ∀ e, M' e → M e) (hP : ∀ e, P e → M' e) : Last M' P tr := by
  obtain ⟨l, x, hx, -, hPx, hnone⟩ := h
  exact ⟨l, x, hx, hP x hPx, hPx, fun i y hi hy hM' => hnone i y hi hy (hM y hM')⟩

/-- There is only one last event. -/
theorem Last.unique {M P P' : Ev → Prop} {tr : List Ev} (h : Last M P tr) (h' : Last M P' tr) :
    ∃ x, P x ∧ P' x := by
  obtain ⟨l, x, hx, hM, hP, hnone⟩ := h
  obtain ⟨l', x', hx', hM', hP', hnone'⟩ := h'
  rcases lt_trichotomy l l' with hlt | rfl | hlt
  · exact absurd hM' (hnone l' x' hlt hx')
  · rw [hx] at hx'
    cases hx'
    exact ⟨x, hP, hP'⟩
  · exact absurd hM (hnone' l x hlt hx)

/-- Among the events of a kind after a position there is a first one. -/
theorem exists_first {N : Ev → Prop} {tr : List Ev} {l f : ℕ} {x : Ev} (hlf : l < f)
    (hx : tr[f]? = some x) (hN : N x) :
    ∃ f' y, l < f' ∧ tr[f']? = some y ∧ N y ∧
      ∀ i z, l < i → i < f' → tr[i]? = some z → ¬N z := by
  classical
  have hex : ∃ f', ∃ y, l < f' ∧ tr[f']? = some y ∧ N y := ⟨f, x, hlf, hx, hN⟩
  obtain ⟨y, hlt, hy, hNy⟩ := Nat.find_spec hex
  refine ⟨Nat.find hex, y, hlt, hy, hNy, ?_⟩
  intro i z hli hi hz hNz
  exact Nat.find_min hex hi ⟨z, hli, hz, hNz⟩

end Trace

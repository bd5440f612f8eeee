import Mathlib.Data.List.Chain
import Mathlib.Data.Nat.Notation
import Mathlib.Tactic.Linarith

/-!
# Times that keep a distance

Increasing lists of times in which consecutive ones are at least a given period apart, and
how many of them fall into a window.
-/

namespace Pacing

/-- Consecutive times are at least `d` apart. -/
def Spaced (d : ℕ) (ts : List ℕ) : Prop := ts.IsChain fun t t' => t + d ≤ t'

variable {d : ℕ} {ts : List ℕ}

theorem spaced_nil : Spaced d [] := List.IsChain.nil

theorem Spaced.concat (h : Spaced d ts) {t : ℕ} (ht : ∀ l ∈ ts.getLast?, l + d ≤ t) :
    Spaced d (ts ++ [t]) := by
  refine List.isChain_append.mpr ⟨h, List.isChain_singleton t, fun l hl u hu => ?_⟩
  cases Option.mem_some_iff.mp hu
  exact ht l hl

/-- Any two times are at least `d` apart. -/
theorem Spaced.pairwise (h : Spaced d ts) : ts.Pairwise fun t t' => t + d ≤ t' := by
  have : Trans (fun t t' : ℕ => t + d ≤ t') (fun t t' => t + d ≤ t') fun t t' => t + d ≤ t' :=
    ⟨fun h h' => by omega⟩
  exact List.isChain_iff_pairwise.mp h

/-- From the first time to the last one there are that many periods. -/
theorem pairwise_span {t : ℕ} (h : (t :: ts).Pairwise fun t t' => t + d ≤ t') :
    t + d * ts.length ≤ (t :: ts).getLast (List.cons_ne_nil t ts) := by
  induction ts generalizing t with
  | nil => simp
  | cons u ts ih =>
      have htu : t + d ≤ u := (List.pairwise_cons.mp h).1 u List.mem_cons_self
      have hrest := ih (List.pairwise_cons.mp h).2
      rw [List.getLast_cons_cons, List.length_cons, Nat.mul_succ]
      omega

/-- A window of length `w` contains no more times than periods, counted upwards. -/
theorem Spaced.length_filter_le (h : Spaced d ts) (hd : 0 < d) (a w : ℕ) :
    (ts.filter fun t => a ≤ t ∧ t < a + w).length ≤ (w + d - 1) / d := by
  have hpair := h.pairwise.filter fun t => decide (a ≤ t ∧ t < a + w)
  have hin : ∀ t ∈ ts.filter fun t => a ≤ t ∧ t < a + w, a ≤ t ∧ t < a + w := fun t ht =>
    of_decide_eq_true (List.mem_filter.mp ht).2
  revert hpair hin
  generalize ts.filter (fun t => decide (a ≤ t ∧ t < a + w)) = us
  intro hpair hin
  cases us with
  | nil => exact Nat.zero_le _
  | cons u us =>
      have hspan := pairwise_span hpair
      have hfirst := (hin u List.mem_cons_self).1
      have hlast := (hin _ (List.getLast_mem (List.cons_ne_nil u us))).2
      rw [Nat.le_div_iff_mul_le hd, List.length_cons, Nat.mul_comm, Nat.mul_succ]
      omega

end Pacing

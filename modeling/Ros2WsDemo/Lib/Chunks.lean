import Mathlib.Data.Int.Notation
import Mathlib.Data.List.Basic
import Mathlib.Data.Nat.Notation
import Mathlib.Order.Basic
import Mathlib.Algebra.Order.Group.Int

/-!
# Cutting an interval into chunks

The pieces `(start, size)` a loop visits that starts at `a`, takes `step` cells
at a time and what is left at the end.  They are in order, do not overlap and
cover the interval.
-/

namespace Chunks

/-- The chunks of `[a, e)`; `fuel` bounds their number. -/
def chunks (step e : ℤ) : ℕ → ℤ → List (ℤ × ℤ)
  | 0, _ => []
  | fuel + 1, a =>
      if a < e then (a, min (e - a) step) :: chunks step e fuel (a + min (e - a) step) else []

variable {step e : ℤ}

theorem chunks_of_lt {a : ℤ} (fuel : ℕ) (h : a < e) :
    chunks step e (fuel + 1) a =
      (a, min (e - a) step) :: chunks step e fuel (a + min (e - a) step) := if_pos h

theorem chunks_of_not_lt {a : ℤ} (fuel : ℕ) (h : ¬a < e) : chunks step e fuel a = [] := by
  cases fuel with
  | zero => rfl
  | succ fuel => exact if_neg h

theorem length_chunks_le (fuel : ℕ) (a : ℤ) : (chunks step e fuel a).length ≤ fuel := by
  induction fuel generalizing a with
  | zero => exact Nat.le_refl 0
  | succ fuel ih =>
      by_cases h : a < e
      · rw [chunks_of_lt fuel h, List.length_cons]
        exact Nat.succ_le_succ (ih _)
      · rw [chunks_of_not_lt _ h]
        exact Nat.zero_le _

theorem bounds_of_mem (hstep : 0 < step) {fuel : ℕ} {a : ℤ} {c : ℤ × ℤ}
    (hc : c ∈ chunks step e fuel a) :
    a ≤ c.1 ∧ 0 < c.2 ∧ c.2 ≤ step ∧ c.1 + c.2 ≤ e := by
  induction fuel generalizing a with
  | zero => cases hc
  | succ fuel ih =>
      by_cases h : a < e
      · rw [chunks_of_lt fuel h] at hc
        rcases List.mem_cons.mp hc with rfl | hc
        · simp only
          omega
        · have htail := ih hc
          omega
      · rw [chunks_of_not_lt _ h] at hc
        cases hc

theorem exists_mem_of_lt (hstep : 0 < step) (fuel : ℕ) (a : ℤ) {x : ℤ}
    (hfuel : (e - a).toNat ≤ fuel)
    (hax : a ≤ x) (hxe : x < e) :
    ∃ c ∈ chunks step e fuel a, c.1 ≤ x ∧ x < c.1 + c.2 := by
  induction fuel generalizing a with
  | zero => omega
  | succ fuel ih =>
      rw [chunks_of_lt fuel (by omega)]
      by_cases hx : x < a + min (e - a) step
      · exact ⟨_, List.mem_cons_self, hax, hx⟩
      · obtain ⟨c, hc, hcx⟩ := ih (a + min (e - a) step) (by omega) (by omega)
        exact ⟨c, List.mem_cons_of_mem _ hc, hcx⟩

theorem pairwise_chunks (hstep : 0 < step) (fuel : ℕ) (a : ℤ) :
    (chunks step e fuel a).Pairwise fun c d => c.1 + c.2 ≤ d.1 := by
  induction fuel generalizing a with
  | zero => exact List.Pairwise.nil
  | succ fuel ih =>
      by_cases h : a < e
      · rw [chunks_of_lt fuel h]
        exact List.Pairwise.cons (fun d hd => (bounds_of_mem hstep hd).1) (ih _)
      · rw [chunks_of_not_lt _ h]
        exact List.Pairwise.nil

end Chunks

import Mathlib.Data.Nat.Notation
import Mathlib.Logic.Basic
import Mathlib.Tactic.SplitIfs

/-!
# While loops

A loop that goes from state to state as long as a condition holds is a solution of its loop
equation.  Where a measure goes down with each turn there is exactly one solution, and a loop
that counts its turns down from the measure is it.
-/

namespace WhileLoop

variable {σ β : Type} (cond : σ → Prop) [DecidablePred cond] (body : σ → β → β) (next : σ → σ)
  (done : β)

/-- `f` does what the loop does: `body s` is what happens in a turn before the rest. -/
def IsWhile (f : σ → β) : Prop := ∀ s, f s = if cond s then body s (f (next s)) else done

/-- The loop with a bound on its turns. -/
def fuelled : ℕ → σ → β
  | 0, _ => done
  | fuel + 1, s => if cond s then body s (fuelled fuel (next s)) else done

variable {cond body next done}

theorem fuelled_of_not {s : σ} (hs : ¬cond s) (fuel : ℕ) :
    fuelled cond body next done fuel s = done := by
  cases fuel with
  | zero => rfl
  | succ fuel => exact if_neg hs

theorem fuelled_succ {s : σ} (hs : cond s) (fuel : ℕ) :
    fuelled cond body next done (fuel + 1) s =
      body s (fuelled cond body next done fuel (next s)) := if_pos hs

section Measure

variable {μ : σ → ℕ} (hdec : ∀ s, cond s → μ (next s) < μ s)

include hdec

theorem IsWhile.fuelled_eq {f : σ → β} (hf : IsWhile cond body next done f) (fuel : ℕ) {s : σ}
    (hfuel : μ s ≤ fuel) : fuelled cond body next done fuel s = f s := by
  induction fuel generalizing s with
  | zero =>
      have hnot : ¬cond s := fun hs => by
        have hlt := hdec s hs
        omega
      rw [hf s, if_neg hnot]
      rfl
  | succ fuel ih =>
      by_cases hs : cond s
      · have hlt := hdec s hs
        rw [hf s, if_pos hs, fuelled_succ hs, ih (by omega)]
      · rw [hf s, if_neg hs, fuelled_of_not hs]

/-- Fuel beyond the measure makes no difference. -/
theorem fuelled_congr (fuel fuel' : ℕ) {s : σ} (hfuel : μ s ≤ fuel) (hfuel' : μ s ≤ fuel') :
    fuelled cond body next done fuel s = fuelled cond body next done fuel' s := by
  induction fuel generalizing fuel' s with
  | zero =>
      have hnot : ¬cond s := fun hs => by
        have hlt := hdec s hs
        omega
      rw [fuelled_of_not hnot, fuelled_of_not hnot]
  | succ fuel ih =>
      by_cases hs : cond s
      · have hlt := hdec s hs
        obtain ⟨fuel', rfl⟩ := Nat.exists_eq_add_one_of_ne_zero (by omega : fuel' ≠ 0)
        rw [fuelled_succ hs, fuelled_succ hs, ih fuel' (by omega) (by omega)]
      · rw [fuelled_of_not hs, fuelled_of_not hs]

theorem isWhile_fuelled :
    IsWhile cond body next done fun s => fuelled cond body next done (μ s) s := by
  intro s
  by_cases hs : cond s
  · have hlt := hdec s hs
    obtain ⟨fuel, hfuel⟩ := Nat.exists_eq_add_one_of_ne_zero (Nat.ne_zero_of_lt hlt)
    have hrest : fuelled cond body next done fuel (next s) =
        fuelled cond body next done (μ (next s)) (next s) :=
      fuelled_congr hdec fuel (μ (next s)) (by omega) (Nat.le_refl _)
    simp only [hfuel, fuelled_succ hs, if_pos hs, hrest]
  · simp only [fuelled_of_not hs, if_neg hs]

end Measure

end WhileLoop

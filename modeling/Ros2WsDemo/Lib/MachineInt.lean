import Mathlib.Data.Int.Basic
import Mathlib.Tactic.Linarith

/-!
# 32-bit integers

What a machine makes of an integer: signed values are read back modulo `2 ^ 32` from
`-2 ^ 31` on, unsigned ones from 0 on.  A value that fits is read back unchanged, and
for a value from 0 on this is the only case.
-/

namespace MachineInt

/-- The values of a signed 32-bit integer. -/
def Fits (n : ℤ) : Prop := -2 ^ 31 ≤ n ∧ n < 2 ^ 31

instance (n : ℤ) : Decidable (Fits n) := inferInstanceAs (Decidable (_ ∧ _))

def wrap (n : ℤ) : ℤ := n.bmod (2 ^ 32)

/-- The unsigned reading. -/
def wrapU (n : ℤ) : ℤ := n % 2 ^ 32

theorem fits_wrap (n : ℤ) : Fits (wrap n) := by
  have hlo := Int.le_bmod (x := n) (m := 2 ^ 32) (by norm_num)
  have hhi := Int.bmod_lt (x := n) (m := 2 ^ 32) (by norm_num)
  unfold Fits wrap
  omega

theorem wrap_of_fits {n : ℤ} (h : Fits n) : wrap n = n := by
  obtain ⟨hlo, hhi⟩ := h
  exact Int.bmod_eq_of_le_mul_two (by norm_num; omega) (by norm_num; omega)

theorem fits_of_lt {n : ℤ} (h0 : 0 ≤ n) (h : n < 2 ^ 31) : Fits n := ⟨by omega, h⟩

theorem wrap_of_lt {n : ℤ} (h0 : 0 ≤ n) (h : n < 2 ^ 31) : wrap n = n :=
  wrap_of_fits (fits_of_lt h0 h)

theorem wrap_le {n : ℤ} (h0 : 0 ≤ n) : wrap n ≤ n := by
  by_cases h : n < 2 ^ 31
  · exact (wrap_of_lt h0 h).le
  · have hhi := (fits_wrap n).2
    omega

theorem wrapU_of_lt {n : ℤ} (h0 : 0 ≤ n) (h : n < 2 ^ 32) : wrapU n = n :=
  Int.emod_eq_of_lt h0 h

end MachineInt

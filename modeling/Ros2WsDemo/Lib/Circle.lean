import Mathlib.Algebra.Order.Round
import Mathlib.Data.List.MinMax
import Mathlib.Data.List.Nodup
import Mathlib.Tactic.Linarith
import Mathlib.Tactic.Ring

/-!
# Distances on a circle

Two angles that differ by a multiple of the period are the same point of the circle.
Their distance is the smallest one between representatives, which for angles less than
a period apart is the shorter of the two arcs.  Nearest points are picked from lists
by `List.argmin`, whose choice among equally near ones is the first.
-/

namespace Circle

variable {K : Type} [Field K] [LinearOrder K] [IsStrictOrderedRing K] [FloorRing K]

/-- The distance of two angles on a circle of the given period. -/
def dist (period a b : K) : K := |a - b - period * round ((a - b) / period)|

variable {period : K}

theorem dist_le (hperiod : 0 < period) (a b : K) (n : ℤ) :
    dist period a b ≤ |a - b - period * n| := by
  have hscale : ∀ m : ℤ, |a - b - period * m| = period * |(a - b) / period - m| := by
    intro m
    calc |a - b - period * m| = |period * ((a - b) / period - m)| := by
          rw [mul_sub, mul_div_cancel₀ _ hperiod.ne']
      _ = period * |(a - b) / period - m| := by rw [abs_mul, abs_of_pos hperiod]
  unfold dist
  rw [hscale, hscale]
  exact mul_le_mul_of_nonneg_left (round_le _ n) hperiod.le

theorem dist_le_abs (hperiod : 0 < period) (a b : K) : dist period a b ≤ |a - b| := by
  simpa using dist_le hperiod a b 0

/-- Turning one of the angles by whole periods does not change the distance. -/
theorem dist_sub_period (hperiod : 0 < period) (a b : K) (n : ℤ) :
    dist period (a - period * n) b = dist period a b := by
  apply le_antisymm
  · refine (dist_le hperiod _ _ (round ((a - b) / period) - n)).trans_eq ?_
    unfold dist
    push_cast
    ring_nf
  · refine (dist_le hperiod _ _ (round ((a - period * n - b) / period) + n)).trans_eq ?_
    unfold dist
    push_cast
    ring_nf

theorem dist_comm (hperiod : 0 < period) (a b : K) : dist period a b = dist period b a := by
  have hle : ∀ a b : K, dist period a b ≤ dist period b a := by
    intro a b
    refine (dist_le hperiod _ _ (-round ((b - a) / period))).trans_eq ?_
    unfold dist
    rw [← abs_neg]
    push_cast
    ring_nf
  exact le_antisymm (hle a b) (hle b a)

/-- Less than a period apart, the distance is the shorter arc. -/
theorem dist_eq_min {a b : K} (hlt : |a - b| < period) :
    dist period a b = min |a - b| (period - |a - b|) := by
  have hperiod : 0 < period := (abs_nonneg _).trans_lt hlt
  apply le_antisymm
  · refine le_min ?_ ?_
    · simpa using dist_le hperiod a b 0
    · rcases le_or_gt 0 (a - b) with hsign | hsign
      · have h := dist_le hperiod a b 1
        rw [abs_of_nonneg hsign] at hlt ⊢
        rwa [Int.cast_one, mul_one, abs_of_neg (by linarith), neg_sub] at h
      · have h := dist_le hperiod a b (-1)
        rw [abs_of_neg hsign] at hlt ⊢
        rwa [Int.cast_neg, Int.cast_one, mul_neg_one, sub_neg_eq_add,
          abs_of_pos (by linarith), add_comm, ← sub_neg_eq_add] at h
  · unfold dist
    generalize round ((a - b) / period) = n
    obtain hn | rfl | hn := lt_trichotomy n 0
    · have hn' : (n : K) ≤ -1 := by exact_mod_cast Int.le_sub_one_of_lt hn
      have hturn : period * n ≤ -period := by nlinarith
      refine (min_le_right _ _).trans (le_trans ?_ (le_abs_self _))
      have := neg_abs_le (a - b)
      linarith
    · simp
    · have hn' : (1 : K) ≤ n := by exact_mod_cast hn
      have hturn : period ≤ period * n := by nlinarith
      refine (min_le_right _ _).trans (le_trans ?_ (neg_le_abs _))
      have := le_abs_self (a - b)
      linarith

/-- A whole number `m` of steps that go round the circle in `cnt` is the place of `i`, and not
further from a place `t` than `t` is from `m`. -/
theorem dist_steps_le {step : K} {cnt : ℤ} (hround : |step * cnt| = period)
    (hperiod : 0 < period) (base t : K) {m i k : ℤ} (hm : |t - m| ≤ 1 / 2)
    (hi : m = i + cnt * k) :
    dist period (base + step * t) (base + step * i) ≤ |step| / 2 := by
  have hcast : (m : K) = i + cnt * k := by
    rw [hi]
    push_cast
    rfl
  have hstep : |step * (t - m)| ≤ |step| / 2 := by
    rw [abs_mul]
    linarith [mul_le_mul_of_nonneg_left hm (abs_nonneg step)]
  rcases abs_choice (step * cnt) with h | h <;> rw [h] at hround
  · refine (dist_le hperiod _ _ k).trans (le_of_eq_of_le (congrArg abs ?_) hstep)
    rw [← hround, hcast]
    ring
  · refine (dist_le hperiod _ _ (-k)).trans (le_of_eq_of_le (congrArg abs ?_) hstep)
    rw [← hround, hcast]
    push_cast
    ring

end Circle

/-! ## The first nearest element -/

namespace List

variable {α β : Type} [LinearOrder β] {f : α → β}

theorem exists_split_of_argmin {l : List α} {a : α} (h : l.argmin f = some a) :
    ∃ before after, l = before ++ a :: after ∧ (∀ b ∈ before, f a < f b) ∧
      ∀ b ∈ after, f a ≤ f b := by
  induction l using List.reverseRecOn generalizing a with
  | nil => simp at h
  | append_singleton l c ih =>
      rw [argmin_concat] at h
      cases hl : l.argmin f with
      | none =>
          rw [argmin_eq_none] at hl
          subst hl
          simp only [argmin_nil, Option.some.injEq] at h
          subst h
          exact ⟨[], [], rfl, nofun, nofun⟩
      | some b =>
          rw [hl] at h
          obtain ⟨before, after, rfl, hbefore, hafter⟩ := ih hl
          simp only at h
          split_ifs at h with hlt
          · cases h
            refine ⟨before ++ b :: after, [], rfl, ?_, nofun⟩
            intro d hd
            exact hlt.trans_le (le_of_mem_argmin hd hl)
          · cases h
            refine ⟨before, after ++ [c], by simp, hbefore, ?_⟩
            intro d hd
            rcases mem_append.mp hd with hd | hd
            · exact hafter d hd
            · rw [mem_singleton.mp hd]
              exact not_lt.mp hlt

/-- Where no two elements are equally near, their order does not matter. -/
theorem argmin_perm {l l' : List α} (hperm : l.Perm l') (hdistinct : (l.map f).Nodup) :
    l.argmin f = l'.argmin f := by
  cases hl : l.argmin f with
  | none =>
      rw [argmin_eq_none] at hl
      subst hl
      rw [← hperm.nil_eq, argmin_nil]
  | some a =>
      cases hl' : l'.argmin f with
      | none =>
          rw [argmin_eq_none] at hl'
          subst hl'
          rw [hperm.eq_nil] at hl
          cases hl
      | some a' =>
          have ha : a ∈ l := argmin_mem hl
          have ha' : a' ∈ l := hperm.mem_iff.mpr (argmin_mem hl')
          have heq : f a = f a' :=
            le_antisymm (le_of_mem_argmin ha' hl) (le_of_mem_argmin (hperm.mem_iff.mp ha) hl')
          rw [inj_on_of_nodup_map hdistinct ha ha' heq]

end List

import Ros2WsDemo.Schedule.Timeline

/-!
# How late a worker can be

If reading the clock, performing and oversleeping are bounded, so is the time by which a
worker is overdue.  The bound is followed through a round: a worker that has been checked is
not overdue, every check of another worker adds what it may take, and the sleep adds only
what it oversleeps, since it ends before anyone is due.
-/

namespace Ros2WsDemo.Schedule

open Effect

/-- Bounds for a reading of the clock, for one `doPerform` and for what a sleep exceeds its
duration by, in nanoseconds. -/
structure Bounds where
  clockNs : ℕ
  performNs : ℕ
  oversleepNs : ℕ

structure Bounds.Hold (b : Bounds) (timing : Timing) : Prop where
  clock : ∀ ns, timing .steadyClockNow ns → ns ≤ b.clockNs
  perform : ∀ i ns, timing (.doPerform i) ns → ns ≤ b.performNs
  sleep : ∀ ms ns, timing (.sleepFor ms) ns → ns ≤ ms * nsPerMs + b.oversleepNs

namespace Bounds

variable (b : Bounds) (cntWorkers : ℕ)

/-- What the check of one worker may take. -/
def check : ℕ := b.clockNs + b.performNs

/-- What worker `i` may be overdue by when the round has come to worker `p`. -/
def inRound (p i : ℕ) : ℕ :=
  if i < p then (p - i) * b.check
  else (cntWorkers - i + p) * b.check + 2 * b.clockNs + b.oversleepNs

def betweenRounds (i : ℕ) : ℕ := (cntWorkers - i) * b.check + b.clockNs + b.oversleepNs

/-- What a worker may be overdue by at any time. -/
def total : ℕ := cntWorkers * b.check + 3 * b.clockNs + b.oversleepNs

variable {b cntWorkers} {p i : ℕ}

theorem inRound_add_le (hp : p ≤ cntWorkers) :
    b.inRound cntWorkers p i + b.clockNs ≤ b.total cntWorkers := by
  have hle : ∀ n ≤ cntWorkers, n * b.check ≤ cntWorkers * b.check := fun n hn =>
    Nat.mul_le_mul_right _ hn
  unfold inRound total
  split_ifs with hip
  · have := hle (p - i) (by omega)
    omega
  · have := hle (cntWorkers - i + p) (by omega)
    omega

theorem betweenRounds_le : b.betweenRounds cntWorkers i ≤ b.total cntWorkers := by
  have hle : (cntWorkers - i) * b.check ≤ cntWorkers * b.check :=
    Nat.mul_le_mul_right _ (Nat.sub_le _ _)
  unfold betweenRounds total
  omega

/-- The check of worker `p`, for the others. -/
theorem inRound_succ (b : Bounds) (cntWorkers : ℕ) (hip : i ≠ p) :
    b.inRound cntWorkers p i + b.check = b.inRound cntWorkers (p + 1) i := by
  unfold inRound
  rcases Nat.lt_or_gt_of_ne hip with hlt | hgt
  · rw [if_pos hlt, if_pos (by omega), ← Nat.succ_mul]
    congr 1
    omega
  · have hsucc : cntWorkers - i + (p + 1) = cntWorkers - i + p + 1 := rfl
    rw [if_neg (by omega), if_neg (by omega), hsucc, Nat.succ_mul (cntWorkers - i + p)]
    omega

theorem le_inRound_succ (b : Bounds) (cntWorkers p : ℕ) :
    b.performNs ≤ b.inRound cntWorkers (p + 1) p := by
  unfold inRound
  rw [if_pos (Nat.lt_succ_self p), Nat.add_sub_cancel_left, Nat.one_mul]
  exact Nat.le_add_left _ _

theorem inRound_end (hi : i < cntWorkers) :
    b.inRound cntWorkers cntWorkers i + b.clockNs + b.oversleepNs =
      b.betweenRounds cntWorkers i := by
  unfold inRound betweenRounds
  rw [if_pos hi]

theorem inRound_begin : b.betweenRounds cntWorkers i + b.clockNs = b.inRound cntWorkers 0 i := by
  unfold inRound betweenRounds
  rw [if_neg (Nat.not_lt_zero i), Nat.add_zero]
  omega

end Bounds

/-! ## Assertions -/

variable (triggerInterval : ℕ → ℕ) (cntWorkers start : ℕ) (timing : Timing)

/-- No worker is overdue by more than the slack, counted from the start of the loop where it
has not performed yet. -/
def OnTime (slack : Bounds → ℕ → ℕ) (s : State) (tr : List ServerEvent) : Prop :=
  ∀ b : Bounds, b.Hold timing → ∀ i < cntWorkers,
    s.now ≤ max start (due triggerInterval i tr) + slack b i

section Proofs

variable {triggerInterval cntWorkers start timing} {slack slack' : Bounds → ℕ → ℕ} {s s' : State}
  {tr : List ServerEvent} {p ns : ℕ}

theorem OnTime.mono (h : OnTime triggerInterval cntWorkers start timing slack s tr)
    (hle : ∀ b : Bounds, ∀ i < cntWorkers, slack b i ≤ slack' b i) :
    OnTime triggerInterval cntWorkers start timing slack' s tr := fun b hb i hi =>
  (h b hb i hi).trans (Nat.add_le_add_left (hle b i hi) _)

/-- An event in which no worker performs and no time passes. -/
theorem OnTime.quiet (h : OnTime triggerInterval cntWorkers start timing slack s tr)
    {e : ServerEvent} (he : ((timeline tr).next e).performed = (timeline tr).performed)
    (hnow : s'.now = s.now) :
    OnTime triggerInterval cntWorkers start timing slack s' (tr ++ [e]) := by
  intro b hb i hi
  have hdue : due triggerInterval i (tr ++ [e]) = due triggerInterval i tr := by
    rw [due, due, performTimes, performTimes, timeline_snoc, he]
  rw [hdue, hnow]
  exact h b hb i hi

theorem OnTime.now (h : OnTime triggerInterval cntWorkers start timing slack s tr)
    (hns : timing .steadyClockNow ns) (t : ℕ) :
    OnTime triggerInterval cntWorkers start timing (fun b i => slack b i + b.clockNs)
      (s.elapse ns) (tr ++ [.op .steadyClockNow t]) := by
  intro b hb i hi
  have hlate := h b hb i hi
  have hclock := hb.clock ns hns
  have hdue : due triggerInterval i (tr ++ [.op .steadyClockNow t]) = due triggerInterval i tr := by
    rw [due, due, performTimes, performTimes, timeline_snoc]
    rfl
  rw [hdue]
  change s.now + ns ≤ max start (due triggerInterval i tr) + (slack b i + b.clockNs)
  omega

/-- A sleep that ends before anyone is due only adds what it oversleeps. -/
theorem onTime_sleep {ms : ℕ}
    (hdue : ∀ i < cntWorkers, s.now + ms * nsPerMs ≤ due triggerInterval i tr)
    (hns : timing (.sleepFor ms) ns) :
    OnTime triggerInterval cntWorkers start timing (fun b _ => b.oversleepNs)
      (s.elapse ns) (tr ++ [.op (.sleepFor ms) ()]) := by
  intro b hb i hi
  have hsleep := hb.sleep ms ns hns
  have hle := hdue i hi
  have hsame :
      due triggerInterval i (tr ++ [.op (.sleepFor ms) ()]) = due triggerInterval i tr := by
    rw [due, due, performTimes, performTimes, timeline_snoc]
    rfl
  rw [hsame]
  change s.now + ns ≤ max start (due triggerInterval i tr) + b.oversleepNs
  omega

/-- A worker that is not due is not overdue. -/
theorem OnTime.notDue
    (h : OnTime triggerInterval cntWorkers start timing
      (fun b i => b.inRound cntWorkers p i + b.clockNs) s tr)
    (hdue : s.now ≤ due triggerInterval p tr) :
    OnTime triggerInterval cntWorkers start timing
      (fun b i => b.inRound cntWorkers (p + 1) i) s tr := by
  intro b hb i hi
  dsimp only
  by_cases hip : i = p
  · subst hip
    omega
  · have hlate := h b hb i hi
    dsimp only at hlate
    have hsucc := b.inRound_succ cntWorkers hip
    unfold Bounds.check at hsucc
    omega

/-- A worker that performs is overdue by what this takes. -/
theorem OnTime.performs
    (h : OnTime triggerInterval cntWorkers start timing
      (fun b i => b.inRound cntWorkers p i + b.clockNs) s tr)
    (hclock : (timeline tr).clock = s.now) (s' : State) (hsame : s'.now = s.now)
    (hns : timing (.doPerform p) ns) (r : Except Exn Unit) :
    OnTime triggerInterval cntWorkers start timing (fun b i => b.inRound cntWorkers (p + 1) i)
      (s'.elapse ns) (tr ++ [.op (.doPerform p) r]) := by
  intro b hb i hi
  have hperform := hb.perform p ns hns
  change s'.now + ns ≤ max start _ + b.inRound cntWorkers (p + 1) i
  by_cases hip : i = p
  · subst hip
    have hslack := b.le_inRound_succ cntWorkers i
    rw [due_self, hclock]
    omega
  · have hlate := h b hb i hi
    have hsucc := b.inRound_succ cntWorkers hip
    dsimp only at hlate
    unfold Bounds.check at hsucc
    rw [due_of_ne hip]
    omega

end Proofs

end Ros2WsDemo.Schedule

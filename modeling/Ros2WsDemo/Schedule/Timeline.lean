import Ros2WsDemo.Schedule.LoopWork

/-!
# When the workers are due

The readings of the clock in a trace say when each worker has performed.  A worker that has
performed is due again one interval later, and while the loop goes round the stored time
points are exactly these due times.
-/

namespace Ros2WsDemo.Schedule

open Effect

/-! ## Reading a trace -/

/-- The last reading of the clock, the one with which the round began, whether that one is
still to come, and when each worker has performed. -/
structure Timeline where
  clock : ℕ := 0
  tpStart : ℕ := 0
  awaitsStart : Bool := false
  performed : ℕ → List ℕ := fun _ => []

namespace Timeline

def next (l : Timeline) : ServerEvent → Timeline
  | .op .shouldContinueRunning _ => { l with awaitsStart := true }
  | .op .steadyClockNow t =>
      { l with clock := t, tpStart := if l.awaitsStart then t else l.tpStart, awaitsStart := false }
  | .op (.doPerform i) _ =>
      { l with performed := Function.update l.performed i (l.performed i ++ [l.clock]) }
  | _ => l

end Timeline

def timeline (tr : List ServerEvent) : Timeline := tr.foldl Timeline.next {}

@[simp] theorem timeline_snoc (tr : List ServerEvent) (e : ServerEvent) :
    timeline (tr ++ [e]) = (timeline tr).next e := by
  rw [timeline, List.foldl_append]
  rfl

/-- The readings at which worker `i` has performed. -/
def performTimes (i : ℕ) (tr : List ServerEvent) : List ℕ := (timeline tr).performed i

variable (triggerInterval : ℕ → ℕ) (cntWorkers : ℕ)

/-- When the worker is due; at once if it has not performed yet. -/
def due (i : ℕ) (tr : List ServerEvent) : ℕ :=
  match (performTimes i tr).getLast? with
  | some t => t + triggerInterval i * nsPerMs
  | none => 0

/-! ## What is asked of the loop -/

/-- The worker is due. -/
def MayPerform (tr : List ServerEvent) (i : ℕ) : Prop :=
  due triggerInterval i tr ≤ (timeline tr).clock

/-- All workers have performed, and the thread sleeps until the first of them is due or the
round has taken a tenth of a second, up to a millisecond. -/
structure MaySleep (tr : List ServerEvent) (ms : ℕ) : Prop where
  performed : ∀ i < cntWorkers, performTimes i tr ≠ []
  ms_le : ms ≤ 100
  start_le : (timeline tr).clock + ms * nsPerMs ≤ (timeline tr).tpStart + 100 * nsPerMs
  due_le : ∀ i < cntWorkers, (timeline tr).clock + ms * nsPerMs ≤ due triggerInterval i tr
  reaches : (timeline tr).tpStart + 100 * nsPerMs < (timeline tr).clock + (ms + 1) * nsPerMs ∨
    ∃ i < cntWorkers, due triggerInterval i tr < (timeline tr).clock + (ms + 1) * nsPerMs

/-! ## Assertions -/

/-- The stored time points are the due times. -/
structure Paced (s : State) (tr : List ServerEvent) : Prop where
  clock_le : (timeline tr).clock ≤ s.now
  next_eq : ∀ i < cntWorkers, s.nextTimepointToTrigger i = due triggerInterval i tr

/-- A round has come to worker `p`; `minNext` is the least time point so far. -/
structure InRound (p minNext : ℕ) (s : State) (tr : List ServerEvent) : Prop
    extends Paced triggerInterval cntWorkers s tr where
  started : (timeline tr).awaitsStart = false
  tpStart_le : (timeline tr).tpStart ≤ (timeline tr).clock
  performed : ∀ i < p, performTimes i tr ≠ []
  minNext_le_start : minNext ≤ (timeline tr).tpStart + 100 * nsPerMs
  minNext_le_due : ∀ i < p, minNext ≤ due triggerInterval i tr
  minNext_eq : minNext = (timeline tr).tpStart + 100 * nsPerMs ∨
    ∃ i < p, minNext = due triggerInterval i tr

section Proofs

variable {triggerInterval cntWorkers} {timing : Timing} {s s' : State} {tr : List ServerEvent}
  {i p minNext : ℕ} {r : Except Exn Unit}

theorem performTimes_of_ne {j : ℕ} (h : j ≠ i) :
    performTimes j (tr ++ [.op (.doPerform i) r]) = performTimes j tr := by
  simp [performTimes, Timeline.next, h]

theorem performTimes_self :
    performTimes i (tr ++ [.op (.doPerform i) r]) = performTimes i tr ++ [(timeline tr).clock] := by
  simp [performTimes, Timeline.next]

theorem due_of_ne {j : ℕ} (h : j ≠ i) :
    due triggerInterval j (tr ++ [.op (.doPerform i) r]) = due triggerInterval j tr := by
  rw [due, due, performTimes_of_ne h]

theorem due_self : due triggerInterval i (tr ++ [.op (.doPerform i) r]) =
    (timeline tr).clock + triggerInterval i * nsPerMs := by
  rw [due, performTimes_self, List.getLast?_concat]

/-- A worker that is due after the epoch of the clock has performed. -/
theorem performed_of_due_pos (h : 0 < due triggerInterval i tr) : performTimes i tr ≠ [] := by
  intro hnil
  rw [due, hnil] at h
  exact Nat.lt_irrefl 0 h

/-- An event in which no worker performs and which begins no round. -/
def Quiet (tr : List ServerEvent) (e : ServerEvent) : Prop :=
  ((timeline tr).next e).performed = (timeline tr).performed ∧
    ((timeline tr).next e).awaitsStart = false ∧
      ((timeline tr).next e).tpStart = (timeline tr).tpStart

theorem due_of_quiet {e : ServerEvent} (h : Quiet tr e) (i : ℕ) :
    due triggerInterval i (tr ++ [e]) = due triggerInterval i tr := by
  rw [due, due, performTimes, performTimes, timeline_snoc, h.1]

theorem InRound.quiet (h : InRound triggerInterval cntWorkers p minNext s tr) {e : ServerEvent}
    (he : Quiet tr e) (hnow : ((timeline tr).next e).clock ≤ s'.now)
    (hclock : (timeline tr).clock ≤ ((timeline tr).next e).clock)
    (hnext : ∀ i < cntWorkers, s'.nextTimepointToTrigger i = s.nextTimepointToTrigger i) :
    InRound triggerInterval cntWorkers p minNext s' (tr ++ [e]) where
  clock_le := by rwa [timeline_snoc]
  next_eq i hi := by rw [due_of_quiet he, hnext i hi, h.next_eq i hi]
  started := by rw [timeline_snoc, he.2.1]
  tpStart_le := by
    rw [timeline_snoc, he.2.2]
    exact h.tpStart_le.trans hclock
  performed i hi := by
    rw [performTimes, timeline_snoc, he.1]
    exact h.performed i hi
  minNext_le_start := by
    rw [timeline_snoc, he.2.2]
    exact h.minNext_le_start
  minNext_le_due i hi := by
    rw [due_of_quiet he]
    exact h.minNext_le_due i hi
  minNext_eq := by
    simp only [due_of_quiet he, timeline_snoc, he.2.2]
    exact h.minNext_eq

/-- The clock is read. -/
theorem InRound.now (h : InRound triggerInterval cntWorkers p minNext s tr) (ns : ℕ) :
    InRound triggerInterval cntWorkers p minNext (s.elapse ns)
      (tr ++ [.op .steadyClockNow (s.elapse ns).now]) :=
  h.quiet ⟨rfl, rfl, by simp [Timeline.next, h.started]⟩ (Nat.le_refl _)
    (h.clock_le.trans (Nat.le_add_right _ _)) fun _ _ => rfl

/-- A stored time point is read. -/
theorem InRound.getNext (h : InRound triggerInterval cntWorkers p minNext s tr) (i next : ℕ) :
    InRound triggerInterval cntWorkers p minNext s
      (tr ++ [.op (.getNextTimepointToTrigger i) next]) :=
  h.quiet ⟨rfl, h.started, rfl⟩ h.clock_le (Nat.le_refl _) fun _ _ => rfl

/-- The event of setting a time point; the assertion is about the state before. -/
theorem InRound.setNext (h : InRound triggerInterval cntWorkers p minNext s tr) (i tp : ℕ) :
    InRound triggerInterval cntWorkers p minNext s
      (tr ++ [.op (.setNextTimepointToTrigger i tp) ()]) :=
  h.quiet ⟨rfl, h.started, rfl⟩ h.clock_le (Nat.le_refl _) fun _ _ => rfl

/-- The worker whose turn it is performs, its time point having been set. -/
theorem InRound.performs (h : InRound triggerInterval cntWorkers p minNext s tr) (ns : ℕ)
    {tpNow : ℕ} (hclock : (timeline tr).clock = tpNow) (r : Except Exn Unit) :
    InRound triggerInterval cntWorkers p minNext
      ((s.setNext p (tpNow + triggerInterval p * nsPerMs)).elapse ns)
      (tr ++ [.op (.doPerform p) r]) where
  clock_le := by
    rw [timeline_snoc]
    exact h.clock_le.trans (Nat.le_add_right _ _)
  next_eq i hi := by
    by_cases hip : i = p
    · subst hip
      rw [due_self, hclock]
      simp [State.elapse, State.setNext]
    · rw [due_of_ne hip, ← h.next_eq i hi]
      simp [State.elapse, State.setNext, hip]
  started := by
    rw [timeline_snoc]
    exact h.started
  tpStart_le := by
    rw [timeline_snoc]
    exact h.tpStart_le
  performed i hi := by
    rw [performTimes_of_ne (Nat.ne_of_lt hi)]
    exact h.performed i hi
  minNext_le_start := by
    rw [timeline_snoc]
    exact h.minNext_le_start
  minNext_le_due i hi := by
    rw [due_of_ne (Nat.ne_of_lt hi)]
    exact h.minNext_le_due i hi
  minNext_eq := by
    refine h.minNext_eq.imp (fun heq => ?_) ?_
    · rw [timeline_snoc]
      exact heq
    · rintro ⟨i, hi, heq⟩
      exact ⟨i, hi, by rw [due_of_ne (Nat.ne_of_lt hi), heq]⟩

theorem InRound.advance (h : InRound triggerInterval cntWorkers p minNext s tr)
    (hperformed : performTimes p tr ≠ []) {next : ℕ} (hnext : next = due triggerInterval p tr) :
    InRound triggerInterval cntWorkers (p + 1) (if next < minNext then next else minNext) s tr := by
  have hle : (if next < minNext then next else minNext) ≤ minNext ∧
      (if next < minNext then next else minNext) ≤ next := by
    split_ifs <;> omega
  refine { h with performed := ?_, minNext_le_start := hle.1.trans h.minNext_le_start
                  minNext_le_due := ?_, minNext_eq := ?_ }
  · intro i hi
    rcases Nat.lt_succ_iff_lt_or_eq.mp hi with hlt | rfl
    · exact h.performed i hlt
    · exact hperformed
  · intro i hi
    rcases Nat.lt_succ_iff_lt_or_eq.mp hi with hlt | rfl
    · exact hle.1.trans (h.minNext_le_due i hlt)
    · exact hle.2.trans hnext.le
  · split_ifs
    · exact Or.inr ⟨p, Nat.lt_succ_self p, hnext⟩
    · exact h.minNext_eq.imp_right fun ⟨i, hi, heq⟩ => ⟨i, Nat.lt_succ_of_lt hi, heq⟩

/-- Rounding the rest of the round down to milliseconds. -/
theorem InRound.maySleep (h : InRound triggerInterval cntWorkers cntWorkers minNext s tr)
    (hle : (timeline tr).clock ≤ minNext) :
    MaySleep triggerInterval cntWorkers tr ((minNext - (timeline tr).clock) / nsPerMs) := by
  have hlow := Nat.div_mul_le_self (minNext - (timeline tr).clock) nsPerMs
  have hhigh := Nat.lt_mul_div_succ (minNext - (timeline tr).clock) (b := nsPerMs) (by decide)
  have hstart := h.minNext_le_start
  have htpStart := h.tpStart_le
  rw [Nat.mul_comm] at hhigh
  generalize (minNext - (timeline tr).clock) / nsPerMs = ms at hlow hhigh
  have hends : (timeline tr).clock + ms * nsPerMs ≤ minNext := by omega
  have hreach : minNext < (timeline tr).clock + (ms + 1) * nsPerMs := by omega
  refine ⟨h.performed, ?_, hends.trans hstart, fun i hi => hends.trans (h.minNext_le_due i hi), ?_⟩
  · have hms : ms * nsPerMs ≤ 100 * nsPerMs := by omega
    exact Nat.le_of_mul_le_mul_right hms (by decide)
  · rcases h.minNext_eq with heq | ⟨i, hi, heq⟩
    · exact Or.inl (heq.symm.trans_lt hreach)
    · exact Or.inr ⟨i, hi, heq.symm.trans_lt hreach⟩

theorem Paced.quiet (h : Paced triggerInterval cntWorkers s tr) {e : ServerEvent}
    (he : ((timeline tr).next e).performed = (timeline tr).performed)
    (hclock : ((timeline tr).next e).clock ≤ s'.now)
    (hnext : s'.nextTimepointToTrigger = s.nextTimepointToTrigger) :
    Paced triggerInterval cntWorkers s' (tr ++ [e]) where
  clock_le := by rwa [timeline_snoc]
  next_eq i hi := by
    rw [hnext, h.next_eq i hi, due, due, performTimes, performTimes, timeline_snoc, he]

theorem Paced.beginRound (h : Paced triggerInterval cntWorkers s tr)
    (hawaits : (timeline tr).awaitsStart = true) (ns : ℕ) :
    InRound triggerInterval cntWorkers 0 ((s.elapse ns).now + 100 * nsPerMs) (s.elapse ns)
      (tr ++ [.op .steadyClockNow (s.elapse ns).now]) := by
  have hstart : (timeline (tr ++ [.op .steadyClockNow (s.elapse ns).now])).tpStart =
      (s.elapse ns).now := by
    rw [timeline_snoc]
    simp [Timeline.next, hawaits]
  refine { toPaced := h.quiet rfl (Nat.le_refl _) rfl, started := ?_, tpStart_le := ?_
           performed := nofun, minNext_le_start := ?_, minNext_le_due := nofun, minNext_eq := ?_ }
  · rw [timeline_snoc]
    rfl
  · rw [hstart, timeline_snoc]
    exact Nat.le_refl _
  · rw [hstart]
  · rw [hstart]
    exact Or.inl rfl

/-- The first `n` workers have got the epoch of the clock as their time point. -/
structure Reset (n : ℕ) (s : State) (tr : List ServerEvent) : Prop where
  clock_le : (timeline tr).clock ≤ s.now
  unperformed : ∀ i, performTimes i tr = []
  next_eq : ∀ i < n, s.nextTimepointToTrigger i = 0

theorem reset_nil (s : State) : Reset 0 s [] := ⟨Nat.zero_le _, fun _ => rfl, nofun⟩

theorem Reset.setNext (h : Reset p s tr) :
    Reset (p + 1) (s.setNext p 0) (tr ++ [.op (.setNextTimepointToTrigger p 0) ()]) where
  clock_le := by
    rw [timeline_snoc]
    exact h.clock_le
  unperformed i := by
    rw [performTimes, timeline_snoc]
    exact h.unperformed i
  next_eq i hi := by
    by_cases hip : i = p
    · subst hip
      simp [State.setNext]
    · rw [← h.next_eq i (by omega)]
      simp [State.setNext, hip]

theorem Reset.paced (h : Reset cntWorkers s tr) : Paced triggerInterval cntWorkers s tr where
  clock_le := h.clock_le
  next_eq i hi := by
    rw [h.next_eq i hi, due, h.unperformed i]
    rfl

end Proofs

end Ros2WsDemo.Schedule

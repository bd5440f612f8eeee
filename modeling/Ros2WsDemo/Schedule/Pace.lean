import Ros2WsDemo.Lib.Sequential
import Ros2WsDemo.Schedule.OnTime

/-!
# The pace of the work loop

Every operation of `loopWork_` with what is known before and after it, and what follows for
the runs: workers keep the distance of their intervals, the thread sleeps until the first
of them is due, and none is overdue for long.
-/

namespace Ros2WsDemo.Schedule

open Effect WorkThread

/-! ## Assertions -/

variable (triggerInterval : ℕ → ℕ) (cntWorkers start : ℕ) (timing : Timing)

/-- No worker is overdue by more than the bound. -/
def NeverLate : State → List ServerEvent → Prop :=
  OnTime triggerInterval cntWorkers start timing fun b _ => b.total cntWorkers

/-- What an operation is guarded by. -/
def Guard (s : State) (tr : List ServerEvent) (o : Op) : Prop :=
  NeverLate triggerInterval cntWorkers start timing s tr ∧
    match o with
    | .doPerform i => MayPerform triggerInterval tr i
    | .sleepFor ms => MaySleep triggerInterval cntWorkers tr ms
    | _ => True

/-- The round has come to worker `p`. -/
def At (p minNext : ℕ) (s : State) (tr : List ServerEvent) : Prop :=
  InRound triggerInterval cntWorkers p minNext s tr ∧
    OnTime triggerInterval cntWorkers start timing (fun b i => b.inRound cntWorkers p i) s tr

/-- The clock has just been read. -/
def ReadClock (p minNext tpNow : ℕ) (s : State) (tr : List ServerEvent) : Prop :=
  InRound triggerInterval cntWorkers p minNext s tr ∧
    OnTime triggerInterval cntWorkers start timing
      (fun b i => b.inRound cntWorkers p i + b.clockNs) s tr ∧
    (timeline tr).clock = tpNow ∧ s.now = tpNow

/-- Worker `p` is due, and its time point has been set. -/
def Triggered (p minNext tpNow : ℕ) (s : State) (tr : List ServerEvent) : Prop :=
  ∃ s₀, ReadClock triggerInterval cntWorkers start timing p minNext tpNow s₀ tr ∧
    s = s₀.setNext p (tpNow + triggerInterval p * nsPerMs) ∧ due triggerInterval p tr ≤ tpNow

/-- Worker `p` has been checked. -/
def Checked (p minNext : ℕ) (s : State) (tr : List ServerEvent) : Prop :=
  InRound triggerInterval cntWorkers p minNext s tr ∧
    OnTime triggerInterval cntWorkers start timing (fun b i => b.inRound cntWorkers (p + 1) i)
      s tr ∧
    performTimes p tr ≠ []

/-- Between two rounds. -/
def Between (s : State) (tr : List ServerEvent) : Prop :=
  Paced triggerInterval cntWorkers s tr ∧
    OnTime triggerInterval cntWorkers start timing (fun b i => b.betweenRounds cntWorkers i) s tr

section Proofs

variable {triggerInterval cntWorkers start timing} {s : State} {tr : List ServerEvent}
  {i p minNext tpNow : ℕ} {E : Exn → State → List ServerEvent → Prop}

theorem At.neverLate (h : At triggerInterval cntWorkers start timing p minNext s tr)
    (hp : p ≤ cntWorkers) : NeverLate triggerInterval cntWorkers start timing s tr :=
  h.2.mono fun _ _ _ => (Nat.le_add_right _ _).trans (Bounds.inRound_add_le hp)

theorem ReadClock.neverLate
    (h : ReadClock triggerInterval cntWorkers start timing p minNext tpNow s tr)
    (hp : p ≤ cntWorkers) : NeverLate triggerInterval cntWorkers start timing s tr :=
  h.2.1.mono fun _ _ _ => Bounds.inRound_add_le hp

theorem Checked.neverLate (h : Checked triggerInterval cntWorkers start timing p minNext s tr)
    (hp : p < cntWorkers) : NeverLate triggerInterval cntWorkers start timing s tr :=
  h.2.1.mono fun _ _ _ => (Nat.le_add_right _ _).trans (Bounds.inRound_add_le hp)

theorem Between.neverLate (h : Between triggerInterval cntWorkers start timing s tr) :
    NeverLate triggerInterval cntWorkers start timing s tr :=
  h.2.mono fun _ _ _ => Bounds.betweenRounds_le

/-! ## The check of one worker -/

theorem wp_now (hp : p ≤ cntWorkers)
    (h : At triggerInterval cntWorkers start timing p minNext s tr) :
    wp (system timing) (Guard triggerInterval cntWorkers start timing)
      (fun tpNow => ReadClock triggerInterval cntWorkers start timing p minNext tpNow) E
      (perform .steadyClockNow) s tr := by
  refine wp_perform_last ⟨h.neverLate hp, trivial⟩ fun tpNow s' hnow => ?_
  obtain ⟨ns, hns, rfl, rfl⟩ := hnow
  exact ⟨h.1.now ns, h.2.now hns _, by rw [timeline_snoc]; rfl, rfl⟩

theorem wp_getNext (hp : p ≤ cntWorkers)
    (h : ReadClock triggerInterval cntWorkers start timing p minNext tpNow s tr) :
    wp (system timing) (Guard triggerInterval cntWorkers start timing)
      (fun next s tr => ReadClock triggerInterval cntWorkers start timing p minNext tpNow s tr ∧
        next = s.nextTimepointToTrigger i) E
      (perform (.getNextTimepointToTrigger i)) s tr := by
  refine wp_perform_last ⟨h.neverLate hp, trivial⟩ fun next s' hnext => ?_
  obtain ⟨rfl, rfl⟩ := hnext
  obtain ⟨hround, hlate, hclock, hsame⟩ := h
  exact ⟨⟨hround.getNext i _, hlate.quiet rfl rfl, by rw [timeline_snoc]; exact hclock, hsame⟩, rfl⟩

theorem wp_setNext (hp : p < cntWorkers)
    (h : ReadClock triggerInterval cntWorkers start timing p minNext tpNow s tr)
    (hdue : s.nextTimepointToTrigger p ≤ tpNow) :
    wp (system timing) (Guard triggerInterval cntWorkers start timing)
      (fun _ => Triggered triggerInterval cntWorkers start timing p minNext tpNow) E
      (perform (.setNextTimepointToTrigger p (tpNow + triggerInterval p * nsPerMs))) s tr := by
  refine wp_perform_last ⟨h.neverLate hp.le, trivial⟩ fun u s' hset => ?_
  obtain ⟨hround, hlate, hclock, hsame⟩ := h
  refine ⟨s, ⟨hround.setNext p _, hlate.quiet rfl rfl, ?_, hsame⟩, hset, ?_⟩
  · rw [timeline_snoc]
    exact hclock
  · rw [← (hround.setNext p _).next_eq p hp]
    exact hdue

theorem wp_doPerform (hp : p < cntWorkers)
    (h : Triggered triggerInterval cntWorkers start timing p minNext tpNow s tr) :
    wp (system timing) (Guard triggerInterval cntWorkers start timing)
      (fun _ => Checked triggerInterval cntWorkers start timing p minNext)
      (fun _ => Checked triggerInterval cntWorkers start timing p minNext) (doPerform p) s tr := by
  obtain ⟨s₀, hread, rfl, hdue⟩ := h
  refine wp_perform_bind ⟨hread.neverLate hp.le, hdue.trans hread.2.2.1.ge⟩ fun r s' hperform => ?_
  obtain ⟨hround, hlate, hclock, hsame⟩ := hread
  obtain ⟨ns, hns, rfl⟩ := hperform
  have hlast : performTimes p (tr ++ [.op (.doPerform p) r]) ≠ [] := by
    rw [performTimes_self]
    exact List.concat_ne_nil _ _
  have hlate' := hlate.performs (hclock.trans hsame.symm)
    (s₀.setNext p (tpNow + triggerInterval p * nsPerMs)) rfl hns r
  cases r with
  | ok u => exact ⟨hround.performs ns hclock _, hlate', hlast⟩
  | error e => exact ⟨hround.performs ns hclock _, hlate', hlast⟩

theorem wp_checkToPerform (hp : p < cntWorkers)
    (h : At triggerInterval cntWorkers start timing p minNext s tr) :
    wp (system timing) (Guard triggerInterval cntWorkers start timing)
      (fun _ => Checked triggerInterval cntWorkers start timing p minNext)
      (fun _ => Checked triggerInterval cntWorkers start timing p minNext)
      (checkToPerform triggerInterval p) s tr := by
  refine wp_seq (wp_now hp.le h) fun tpNow s₁ tr₁ h₁ => wp_seq (wp_getNext hp.le h₁) ?_
  rintro next s₂ tr₂ ⟨h₂, rfl⟩
  split_ifs with hdue
  · exact wp_seq (wp_setNext hp h₂ hdue) fun _ _ _ h₃ => wp_doPerform hp h₃
  · obtain ⟨hround, hlate, -, hsame⟩ := h₂
    rw [hround.next_eq p hp] at hdue
    have hlt := Nat.lt_of_not_le hdue
    exact ⟨hround, hlate.notDue (hsame.trans_le hlt.le),
      performed_of_due_pos (Nat.lt_of_le_of_lt (Nat.zero_le _) hlt)⟩

theorem wp_performWorker (hp : p < cntWorkers)
    (h : At triggerInterval cntWorkers start timing p minNext s tr) :
    wp (system timing) (Guard triggerInterval cntWorkers start timing)
      (fun shouldReconnect s tr => if shouldReconnect = true then
        NeverLate triggerInterval cntWorkers start timing s tr
        else Checked triggerInterval cntWorkers start timing p minNext s tr)
      (fun _ => NeverLate triggerInterval cntWorkers start timing)
      (performWorker (loopCalls triggerInterval) () p) s tr := by
  apply WorkThread.wp_performWorker
  refine wp_mono (wp_checkToPerform hp h) (fun _ _ _ hchecked => hchecked) fun e _ _ hchecked => ?_
  split_ifs
  · exact hchecked.neverLate hp
  · exact hchecked.neverLate hp
  · exact hchecked

/-- The next time point of the worker that has been checked. -/
theorem wp_minNext (hp : p < cntWorkers)
    (h : Checked triggerInterval cntWorkers start timing p minNext s tr) :
    wp (system timing) (Guard triggerInterval cntWorkers start timing)
      (fun minNext => At triggerInterval cntWorkers start timing (p + 1) minNext) E
      ((loopCalls triggerInterval).minNextTriggerTimepoint p minNext) s tr := by
  refine wp_perform_bind ⟨h.neverLate hp, trivial⟩ fun next s₂ hnext => ?_
  obtain ⟨h₁, hlate₁, hperformed⟩ := h
  obtain ⟨rfl, rfl⟩ := hnext
  have h₂ := h₁.getNext p (s₂.nextTimepointToTrigger p)
  refine ⟨h₂.advance ?_ (h₂.next_eq p hp), hlate₁.quiet rfl rfl⟩
  rw [performTimes, timeline_snoc]
  exact hperformed

/-! ## A round -/

theorem wp_performWorkers (h : At triggerInterval cntWorkers start timing 0 minNext s tr) :
    wp (system timing) (Guard triggerInterval cntWorkers start timing)
      (fun o s tr => o.elim (NeverLate triggerInterval cntWorkers start timing s tr) fun m =>
        At triggerInterval cntWorkers start timing cntWorkers m s tr)
      (fun _ => NeverLate triggerInterval cntWorkers start timing)
      (performWorkers (loopCalls triggerInterval) () (List.range cntWorkers) minNext) s tr := by
  refine wp_mono (WorkThread.wp_performWorkers
    (L := NeverLate triggerInterval cntWorkers start timing)
    (I := At triggerInterval cntWorkers start timing)
    (C := Checked triggerInterval cntWorkers start timing) ?_ ?_ h) ?_ fun _ _ _ h => h
  · intro k i minNext s tr hk h
    obtain ⟨rfl, hp⟩ := range_at hk
    exact wp_performWorker hp h
  · intro k i minNext s tr hk h
    obtain ⟨rfl, hp⟩ := range_at hk
    exact wp_minNext hp h
  · intro o s tr h
    rwa [List.length_range] at h

theorem wp_sleepUntil (h : At triggerInterval cntWorkers start timing cntWorkers minNext s tr) :
    wp (system timing) (Guard triggerInterval cntWorkers start timing)
      (fun _ => Between triggerInterval cntWorkers start timing)
      (fun _ => NeverLate triggerInterval cntWorkers start timing) (sleepUntil minNext) s tr := by
  refine wp_seq (wp_now (Nat.le_refl _) h) fun tpNow s₁ tr₁ h₁ => ?_
  have hlate := h₁.neverLate (Nat.le_refl _)
  obtain ⟨hround, hontime, rfl, hsame⟩ := h₁
  split_ifs with hle
  · have hsleep := hround.maySleep hle
    refine wp_perform_last ⟨hlate, hsleep⟩ fun u s₂ hslept => ?_
    obtain ⟨ns, hns, -, rfl⟩ := hslept
    refine ⟨hround.toPaced.quiet rfl (hround.clock_le.trans (Nat.le_add_right _ _)) rfl, ?_⟩
    exact (onTime_sleep (fun i hi => hsame ▸ hsleep.due_le i hi) hns).mono fun _ _ _ =>
      Nat.le_add_left _ _
  · refine ⟨hround.toPaced, hontime.mono fun b i hi => ?_⟩
    rw [← Bounds.inRound_end hi]
    exact Nat.le_add_right _ _

/-! ## The loop -/

theorem wp_continue (h : Between triggerInterval cntWorkers start timing s tr) :
    wp (system timing) (Guard triggerInterval cntWorkers start timing)
      (fun _ s tr => Between triggerInterval cntWorkers start timing s tr ∧
        (timeline tr).awaitsStart = true) E
      (perform .shouldContinueRunning) s tr := by
  refine wp_perform_last ⟨h.neverLate, trivial⟩ fun continues s₁ hsame => ?_
  obtain rfl := hsame
  refine ⟨⟨h.1.quiet rfl h.1.clock_le rfl, h.2.quiet rfl rfl⟩, ?_⟩
  rw [timeline_snoc]
  rfl

theorem wp_beginRound (h : Between triggerInterval cntWorkers start timing s tr)
    (hstart : (timeline tr).awaitsStart = true) :
    wp (system timing) (Guard triggerInterval cntWorkers start timing)
      (fun minNext => At triggerInterval cntWorkers start timing 0 minNext) E
      (loopCalls triggerInterval).beginRound s tr := by
  refine wp_perform_bind ⟨h.neverLate, trivial⟩ fun tpStart s₁ hnow => ?_
  obtain ⟨ns, hns, rfl, rfl⟩ := hnow
  exact ⟨h.1.beginRound hstart ns,
    (h.2.now hns (s.elapse ns).now).mono fun _ _ _ => Bounds.inRound_begin.le⟩

theorem wp_performRounds (rounds : ℕ) (h : Between triggerInterval cntWorkers start timing s tr) :
    wp (system timing) (Guard triggerInterval cntWorkers start timing)
      (fun _ => NeverLate triggerInterval cntWorkers start timing)
      (fun _ => NeverLate triggerInterval cntWorkers start timing)
      (performRounds (loopCalls triggerInterval) () (List.range cntWorkers) rounds) s tr := by
  refine WorkThread.wp_performRounds
    (A := fun s tr => Between triggerInterval cntWorkers start timing s tr ∧
      (timeline tr).awaitsStart = true)
    (D := fun m => At triggerInterval cntWorkers start timing cntWorkers m)
    (fun _ _ h => h.neverLate) ?_ ?_ ?_ h
  · refine fun s tr h => wp_mono (wp_continue h) (fun continues _ _ h => ?_) fun _ _ _ h => h
    split_ifs
    · exact h
    · exact h.1.neverLate
  · exact fun s tr h => wp_mono (wp_beginRound h.1 h.2) (fun _ _ _ h => wp_performWorkers h)
      fun _ _ _ h => h
  · exact fun minNext s tr h => wp_sleepUntil h

/-- Nothing takes time before the first round. -/
theorem wp_reinitWorkers (left : ℕ) (hleft : p + left = cntWorkers) (h : Reset p s tr)
    (hstart : s.now = start) :
    wp (system timing) (Guard triggerInterval cntWorkers start timing)
      (fun _ => Between triggerInterval cntWorkers start timing)
      (fun _ => NeverLate triggerInterval cntWorkers start timing) (reinitWorkers left p) s tr := by
  have hlate : ∀ slack, OnTime triggerInterval cntWorkers start timing slack s tr :=
    fun slack b _ i _ => (hstart.trans_le (le_max_left _ _)).trans (Nat.le_add_right _ _)
  induction left generalizing p s tr with
  | zero =>
      obtain rfl : p = cntWorkers := hleft
      exact ⟨h.paced, hlate _⟩
  | succ left ih =>
      refine wp_perform_bind ⟨hlate _, trivial⟩ fun u s₁ hset => ?_
      obtain rfl := hset
      exact ih (by omega) h.setNext hstart fun slack => (hlate slack).quiet rfl rfl

theorem wp_loopWork (rounds : ℕ) (s : State) :
    wp (system timing) (Guard triggerInterval cntWorkers s.now timing)
      (fun _ => NeverLate triggerInterval cntWorkers s.now timing)
      (fun _ => NeverLate triggerInterval cntWorkers s.now timing)
      (loopWork triggerInterval cntWorkers rounds) s [] :=
  wp_seq (wp_reinitWorkers cntWorkers (Nat.zero_add _) (reset_nil s) rfl)
    fun _ _ _ h => wp_performRounds rounds h

end Proofs

/-! ## Runs -/

section Runs

variable {triggerInterval cntWorkers timing} {rounds : ℕ} {s : State} {c : ServerConfig}

theorem wp_of_reachable (h : Reachable (system timing) noJobs
    (ServerConfig.init triggerInterval cntWorkers rounds s) c) :
    wp (system timing) (Guard triggerInterval cntWorkers s.now timing)
      (fun _ => NeverLate triggerInterval cntWorkers s.now timing)
      (fun _ => NeverLate triggerInterval cntWorkers s.now timing) c.prog c.state c.trace :=
  wp_reachable (fun _ => stable_of_isEmpty _) (fun _ => stable_of_isEmpty _) (fun j => j.elim)
    (wp_loopWork rounds s) h

theorem guarded (h : Reachable (system timing) noJobs
    (ServerConfig.init triggerInterval cntWorkers rounds s) c) {o : Op} {k : Ret o → ServerM Unit}
    (hprog : c.prog = .call o k) :
    Guard triggerInterval cntWorkers s.now timing c.state c.trace o := by
  have hwp := wp_of_reachable h
  rw [hprog] at hwp
  exact (wp_call_iff.mp hwp).1

/-- A worker that is due performs at least one interval after its last time. -/
theorem spaced_snoc {tr : List ServerEvent} {i : ℕ} (r : Except Exn Unit)
    (h : Pacing.Spaced (triggerInterval i * nsPerMs) (performTimes i tr))
    (hdue : MayPerform triggerInterval tr i) :
    Pacing.Spaced (triggerInterval i * nsPerMs)
      (performTimes i (tr ++ [.op (.doPerform i) r])) := by
  rw [performTimes_self]
  refine h.concat fun t ht => ?_
  rw [MayPerform, due, Option.mem_def.mp ht] at hdue
  exact hdue

theorem performTimes_spaced (h : Reachable (system timing) noJobs
    (ServerConfig.init triggerInterval cntWorkers rounds s) c) (i : ℕ) :
    Pacing.Spaced (triggerInterval i * nsPerMs) (performTimes i c.trace) := by
  refine invariant_reachable (G := Guard triggerInterval cntWorkers s.now timing)
    (I := fun _ tr => Pacing.Spaced (triggerInterval i * nsPerMs) (performTimes i tr))
    Pacing.spaced_nil (fun c hc o k hprog => guarded hc hprog) ?_ (stable_of_isEmpty _)
    (fun _ _ j => j.elim) h
  intro s tr o r s' hspaced hguard _
  by_cases ho : o = .doPerform i
  · subst ho
    exact spaced_snoc r hspaced hguard.2
  · have hsame : performTimes i (tr ++ [.op o r]) = performTimes i tr := by
      cases o with
      | doPerform j => exact performTimes_of_ne fun hij => ho (congrArg Op.doPerform hij.symm)
      | _ =>
          rw [performTimes, timeline_snoc]
          rfl
    rw [hsame]
    exact hspaced

/-- Whatever the workers throw and however long anything takes: two calls of `doPerform` of a
worker in one session are at least its interval apart, and a window of time sees no more of
them than intervals begin in it. -/
theorem performs_keep_interval (h : Reachable (system timing) noJobs
    (ServerConfig.init triggerInterval cntWorkers rounds s) c) {i : ℕ}
    (hpos : 0 < triggerInterval i) :
    Pacing.Spaced (triggerInterval i * nsPerMs) (performTimes i c.trace) ∧
      ∀ a w, ((performTimes i c.trace).filter fun t => a ≤ t ∧ t < a + w).length ≤
        (w + triggerInterval i * nsPerMs - 1) / (triggerInterval i * nsPerMs) := by
  have hspaced := performTimes_spaced h i
  exact ⟨hspaced, hspaced.length_filter_le (Nat.mul_pos hpos (by decide))⟩

/-- No worker starves.  If reading the clock, performing and oversleeping are bounded, then at
every moment every worker is overdue by at most the time in which all workers are checked
once, three readings of the clock and what a sleep may add. -/
theorem never_late (h : Reachable (system timing) noJobs
    (ServerConfig.init triggerInterval cntWorkers rounds s) c) {b : Bounds} (hb : b.Hold timing)
    {i : ℕ} (hi : i < cntWorkers) :
    c.state.now ≤ max s.now (due triggerInterval i c.trace) +
      (cntWorkers * (b.clockNs + b.performNs) + 3 * b.clockNs + b.oversleepNs) :=
  wp_reachable_imp (I := NeverLate triggerInterval cntWorkers s.now timing)
    (fun _ _ _ hguard => hguard.1) (fun _ _ _ hlate => hlate) (fun _ _ _ hlate => hlate)
    (wp_of_reachable h) b hb i hi

end Runs

/-! ## Two workers -/

/-- Worker 0 performs every 50 ms, worker 1 every 80 ms. -/
def exampleInterval : ℕ → ℕ
  | 0 => 50
  | _ => 80

/-- Performing takes 5 ms, a sleep half a millisecond more than it should. -/
def exampleElapsed : Op → ℕ
  | .doPerform _ => 5 * nsPerMs
  | .sleepFor ms => ms * nsPerMs + 500000
  | _ => 0

def exampleTiming : Timing := fun o ns => ns = exampleElapsed o

/-- Worker 1 always fails. -/
def exampleHandler : (o : Op) → State → Ret o × State
  | .shouldContinueRunning, s => (true, s)
  | .steadyClockNow, s => (s.now, s.elapse 0)
  | .getNextTimepointToTrigger i, s => (s.nextTimepointToTrigger i, s)
  | .setNextTimepointToTrigger i tp, s => ((), s.setNext i tp)
  | .doPerform i, s => (if i = 1 then .error .operationFail else .ok (), s.elapse (5 * nsPerMs))
  | .sleepFor ms, s => ((), s.elapse (ms * nsPerMs + 500000))

theorem handle_exampleHandler (s : State) (o : Op) :
    (system exampleTiming).handle s o (exampleHandler o s).1 (exampleHandler o s).2 := by
  cases o with
  | shouldContinueRunning => rfl
  | steadyClockNow => exact ⟨0, rfl, rfl, rfl⟩
  | getNextTimepointToTrigger i => exact ⟨rfl, rfl⟩
  | setNextTimepointToTrigger i tp => rfl
  | doPerform i => exact ⟨5 * nsPerMs, rfl, rfl⟩
  | sleepFor ms => exact ⟨ms * nsPerMs + 500000, rfl, Nat.le_add_right _ _, rfl⟩

def exampleStart : State := ⟨1000 * nsPerMs, fun _ => 0⟩

/-- The session after 40 operations. -/
def exampleSession : ServerConfig :=
  ((ServerConfig.init exampleInterval 2 10 exampleStart).play exampleHandler (fun j => j.elim)
    noJobs (List.replicate 40 .op)).getD (ServerConfig.init exampleInterval 2 10 exampleStart)

theorem reachable_exampleSession : Reachable (system exampleTiming) noJobs
    (ServerConfig.init exampleInterval 2 10 exampleStart) exampleSession :=
  reachable_ops handle_exampleHandler (by decide +kernel)

theorem hold_exampleTiming : Bounds.Hold ⟨0, 5 * nsPerMs, 500000⟩ exampleTiming where
  clock _ h := h.le
  perform _ _ h := h.le
  sleep _ _ h := h.le

/-- The first worker has performed twice, and no more than twice within 60 ms. -/
theorem performs_keep_interval_session :
    performTimes 0 exampleSession.trace = [1000000000, 1050500000] ∧
      ((performTimes 0 exampleSession.trace).filter fun t =>
        1000000000 ≤ t ∧ t < 1000000000 + 60000000).length ≤ 2 := by
  have hkeeps := performs_keep_interval (i := 0) reachable_exampleSession (by decide)
  exact ⟨by decide +kernel, hkeeps.2 1000000000 60000000⟩

theorem never_late_session : exampleSession.state.now ≤
    max 1000000000 (due exampleInterval 1 exampleSession.trace) + 10500000 :=
  never_late reachable_exampleSession hold_exampleTiming (i := 1) (by decide)

end Ros2WsDemo.Schedule

import Ros2WsDemo.Lib.Pacing
import Ros2WsDemo.Session.WorkThread

/-!
# The work loop on the clock

`loopWork_` with the trigger times of the workers.  Times are those of the
steady clock, in nanoseconds; they pass before a reading of the clock, while a worker
performs and while the thread sleeps.  How much of it passes is a parameter.  The worker
list has `cntWorkers` elements, and worker `i` is triggered every `triggerInterval i`
milliseconds.
-/

namespace Ros2WsDemo.Schedule

open Effect WorkThread

/-! ## Operations -/

inductive Op where
  | shouldContinueRunning
  | steadyClockNow
  | getNextTimepointToTrigger (i : ℕ)
  | setNextTimepointToTrigger (i tp : ℕ)
  | doPerform (i : ℕ)
  | sleepFor (ms : ℕ)
  deriving DecidableEq

abbrev Ret : Op → Type
  | .shouldContinueRunning => Bool
  | .steadyClockNow => ℕ
  | .getNextTimepointToTrigger _ => ℕ
  | .doPerform _ => Except Exn Unit
  | _ => Unit

def nsPerMs : ℕ := 1000000

structure State where
  now : ℕ
  nextTimepointToTrigger : ℕ → ℕ

def State.elapse (s : State) (ns : ℕ) : State := { s with now := s.now + ns }

def State.setNext (s : State) (i tp : ℕ) : State :=
  { s with nextTimepointToTrigger := Function.update s.nextTimepointToTrigger i tp }

/-- The nanoseconds that an operation may take. -/
abbrev Timing := Op → ℕ → Prop

/-- `sleep_for` does not return early. -/
def handle (timing : Timing) (s : State) : (o : Op) → Ret o → State → Prop
  | .steadyClockNow, r, s' =>
      ∃ ns, timing .steadyClockNow ns ∧ s' = s.elapse ns ∧ r = s'.now
  | .getNextTimepointToTrigger i, r, s' => r = s.nextTimepointToTrigger i ∧ s' = s
  | .setNextTimepointToTrigger i tp, _, s' => s' = s.setNext i tp
  | .doPerform i, _, s' => ∃ ns, timing (.doPerform i) ns ∧ s' = s.elapse ns
  | .sleepFor ms, _, s' => ∃ ns, timing (.sleepFor ms) ns ∧ ms * nsPerMs ≤ ns ∧ s' = s.elapse ns
  | .shouldContinueRunning, _, s' => s' = s

/-- Only the work thread touches the trigger times. -/
def system (timing : Timing) : System Ret Empty State where
  handle := handle timing
  act := fun _ a _ => a.elim

abbrev ServerM := Prog Ret Exn

abbrev ServerEvent := Event Ret Empty Empty

def perform (o : Op) : ServerM (Ret o) := Prog.perform o

def doPerform (i : ℕ) : ServerM Unit :=
  perform (.doPerform i) >>= fun r : Except Exn Unit => ofExcept r

/-! ## The functions of the source -/

/-- What `ServerWorkerBase::reinitWorkLoop` does for the workers from `i` on: the time point
of a worker becomes the epoch of the clock. -/
def reinitWorkers : ℕ → ℕ → ServerM Unit
  | 0, _ => return
  | left + 1, i => do
      perform (.setNextTimepointToTrigger i 0)
      reinitWorkers left (i + 1)

variable (triggerInterval : ℕ → ℕ)

def checkToPerform (i : ℕ) : ServerM Unit := do
  let tpNow ← perform .steadyClockNow
  let next ← perform (.getNextTimepointToTrigger i)
  if next ≤ tpNow then
    perform (.setNextTimepointToTrigger i (tpNow + triggerInterval i * nsPerMs))
    doPerform i

/-- `duration_cast<milliseconds>` rounds towards zero. -/
def sleepUntil (minNext : ℕ) : ServerM Unit := do
  let tpNow ← perform .steadyClockNow
  if tpNow ≤ minNext then
    perform (.sleepFor ((minNext - tpNow) / nsPerMs))

/-- A worker is its position in `serverWorkers_`; the platform does not matter. -/
def loopCalls : LoopCalls Ret ℕ Unit ℕ where
  shouldContinueRunning := perform .shouldContinueRunning
  beginRound := do
    let tpStart ← perform .steadyClockNow
    return tpStart + 100 * nsPerMs
  checkToPerform i _ := checkToPerform triggerInterval i
  minNextTriggerTimepoint i minNext := do
    let tmpNextTp ← perform (.getNextTimepointToTrigger i)
    return if tmpNextTp < minNext then tmpNextTp else minNext
  sleepUntil := sleepUntil

variable (cntWorkers : ℕ)

/-- `loopWork_` from the last initialization of its workers on, for at most that many rounds. -/
def loopWork (rounds : ℕ) : ServerM Unit := do
  reinitWorkers cntWorkers 0
  performRounds (loopCalls triggerInterval) () (List.range cntWorkers) rounds

abbrev ServerConfig := Config Ret Empty Empty State Exn Unit

/-- The thread function has no other jobs. -/
def noJobs : Empty → ServerM Unit := Empty.elim

/-- The session may begin at any time, with any trigger times left by the one before. -/
def ServerConfig.init (rounds : ℕ) (s : State) : ServerConfig :=
  ⟨loopWork triggerInterval cntWorkers rounds, s, []⟩

end Ros2WsDemo.Schedule

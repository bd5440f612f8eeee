import Ros2WsDemo.Lib.Interleaving
import Ros2WsDemo.Rpos.Basic

/-!
# The work thread of the server

`workThreadFun_` connects to the robot, reinitializes all workers and then lets them
perform until the connection breaks.  The functions are written over the calls they make:
a model of the thread says what these calls are, and of what kind a worker `W`, a platform
`P` and a time point `T` are.  The unbounded loops run for at most a given number of rounds.
Each loop has a rule, to be used with an invariant of its model.
-/

namespace Ros2WsDemo.WorkThread

open Effect

/-! ## Calls -/

/-- What the loop in `loopWork_` calls. -/
structure LoopCalls {Op : Type} (Ret : Op → Type) (W P T : Type) where
  shouldContinueRunning : Prog Ret Exn Bool
  /-- The first value of `minNextTriggerTimepoint`. -/
  beginRound : Prog Ret Exn T
  checkToPerform : W → P → Prog Ret Exn Unit
  /-- `minNextTriggerTimepoint`, with the next time point of a worker. -/
  minNextTriggerTimepoint : W → T → Prog Ret Exn T
  sleepUntil : T → Prog Ret Exn Unit

/-- What the work thread calls; `reinitWorkLoopDone` stands for what `loopWork_` logs
when `reinitWorkLoop_` has returned. -/
structure ThreadCalls {Op : Type} (Ret : Op → Type) (W P T : Type)
    extends LoopCalls Ret W P T where
  rclcppOk : Prog Ret Exn Bool
  roughSleepWait : Prog Ret Exn Unit
  safeIsSlamwarePlatformConnected : Prog Ret Exn Bool
  loopTryConnectToSlamwarePlatform : Prog Ret Exn Unit
  safeGetSlamwarePlatform : Prog Ret Exn (Option P)
  safeReleaseSlamwarePlatform : Prog Ret Exn Unit
  resetOnWorkLoopBegin : W → P → Prog Ret Exn Unit
  isWorkLoopInitOk : W → Prog Ret Exn Bool
  reinitWorkLoop : W → P → Prog Ret Exn Bool
  reinitWorkLoopDone : P → Bool → Prog Ret Exn Unit

variable {Op : Type} {Ret : Op → Type} {W P T : Type}

/-! ## The functions of the source -/

section Reinit

variable (calls : ThreadCalls Ret W P T) (pltfm : P)

/-- The first loop of `reinitWorkLoop_`. -/
def resetWorkers : List W → Prog Ret Exn Bool
  | [] => return true
  | svrWk :: serverWorkers => do
      let ok ← Prog.tryCatch
        (do
          calls.resetOnWorkLoopBegin svrWk pltfm
          return true)
        fun e => if e.isStd then return false else throw e
      if !ok then
        return false
      resetWorkers serverWorkers

/-- What a try does for one worker.  The number of workers that are ok is returned. -/
def initWorker (svrWk : W) (cntOk : ℕ) : Prog Ret Exn ℕ :=
  Prog.tryCatch
    (do
      if ← calls.isWorkLoopInitOk svrWk then
        return cntOk + 1
      if ← calls.reinitWorkLoop svrWk pltfm then
        return cntOk + 1
      return cntOk)
    fun e => if e.isConnection || !e.isStd then throw e else return cntOk

def initWorkers : List W → ℕ → Prog Ret Exn ℕ
  | [], cntOk => return cntOk
  | svrWk :: serverWorkers, cntOk => do
      let cntOk ← initWorker calls pltfm svrWk cntOk
      initWorkers serverWorkers cntOk

/-- The retries of `reinitWorkLoop_`, as many as are left. -/
def tryInitWorkers (serverWorkers : List W) : ℕ → Prog Ret Exn Bool
  | 0 => return false
  | left + 1 => do
      if !(← calls.shouldContinueRunning) then
        return false
      let cntOk ← initWorkers calls pltfm serverWorkers 0
      if serverWorkers.length = cntOk then
        return true
      if 0 < left then
        calls.roughSleepWait
      tryInitWorkers serverWorkers left

def maxLoopTryCnt : ℕ := 3

def reinitWorkLoop (serverWorkers : List W) : Prog Ret Exn Bool := do
  if !(← resetWorkers calls pltfm serverWorkers) then
    return false
  tryInitWorkers calls pltfm serverWorkers maxLoopTryCnt

end Reinit

section Rounds

variable (calls : LoopCalls Ret W P T) (pltfm : P)

/-- What `loopWork_` does with one worker; the answer is `shouldReconnect`. -/
def performWorker (svrWk : W) : Prog Ret Exn Bool :=
  Prog.tryCatch
    (do
      calls.checkToPerform svrWk pltfm
      return false)
    fun e => if e.isFault then throw e else return e.isConnection

/-- One round of `loopWork_`.  The answer is `minNextTriggerTimepoint`, and nothing if the
server has to reconnect. -/
def performWorkers : List W → T → Prog Ret Exn (Option T)
  | [], minNext => return some minNext
  | svrWk :: serverWorkers, minNext => do
      if ← performWorker calls pltfm svrWk then
        return none
      let minNext ← calls.minNextTriggerTimepoint svrWk minNext
      performWorkers serverWorkers minNext

def performRounds (serverWorkers : List W) : ℕ → Prog Ret Exn Unit
  | 0 => return
  | rounds + 1 => do
      if !(← calls.shouldContinueRunning) then
        return
      let minNext ← calls.beginRound
      match ← performWorkers calls pltfm serverWorkers minNext with
      | none => return
      | some minNext =>
          calls.sleepUntil minNext
          performRounds serverWorkers rounds

end Rounds

section Thread

variable (calls : ThreadCalls Ret W P T) (serverWorkers : List W)

def loopWork (rounds : ℕ) : Prog Ret Exn Unit := do
  match ← calls.safeGetSlamwarePlatform with
  | none => throw (.assertion "pltfm")
  | some pltfm =>
      let ok ← reinitWorkLoop calls pltfm serverWorkers
      calls.reinitWorkLoopDone pltfm ok
      if ok then
        performRounds calls.toLoopCalls pltfm serverWorkers rounds

/-- Whether the server is connected, after an attempt to connect where it was not. -/
def checkToConnect : Prog Ret Exn Bool := do
  if ← calls.safeIsSlamwarePlatformConnected then
    return true
  calls.loopTryConnectToSlamwarePlatform
  calls.safeIsSlamwarePlatformConnected

/-- What `workThreadFun_` does with a connection. -/
def session (rounds : ℕ) : Prog Ret Exn Unit := do
  let connected ← calls.safeIsSlamwarePlatformConnected
  ofExcept (boostAssert (connected = true) "safeIsSlamwarePlatformConnected_()")
  Prog.tryCatch (loopWork calls serverWorkers rounds) fun e =>
    if e.isFault then throw e else return
  calls.safeReleaseSlamwarePlatform
  if ← calls.shouldContinueRunning then
    calls.roughSleepWait

/-- `workThreadFun_`, for at most `sessions` rounds of its loop, each with at most
`rounds` rounds of the loop in `loopWork_`. -/
def workThreadFun (rounds : ℕ) : ℕ → Prog Ret Exn Unit
  | 0 => return
  | sessions + 1 => do
      if !(← calls.shouldContinueRunning) then
        return
      if !(← calls.rclcppOk) then
        return
      if ← checkToConnect calls then
        session calls serverWorkers rounds
      workThreadFun rounds sessions

end Thread

/-! ## Rules -/

section Rules

variable {Act Job σ : Type} {sys : System Ret Act σ}
  {G : σ → List (Event Ret Act Job) → Op → Prop}
  {E : Exn → σ → List (Event Ret Act Job) → Prop} {s : σ} {tr : List (Event Ret Act Job)}

/-! ### Initialization -/

section Reinit

variable {calls : ThreadCalls Ret W P T} {pltfm : P} {serverWorkers : List W}

/-- `I k` holds when the first `k` workers have been reset, `J` when a reset has failed. -/
theorem wp_resetWorkers {I : ℕ → σ → List (Event Ret Act Job) → Prop}
    {J : σ → List (Event Ret Act Job) → Prop}
    (hreset : ∀ k svrWk s tr, serverWorkers[k]? = some svrWk → I k s tr →
      wp sys G (fun _ => I (k + 1)) (fun e s tr => if e.isStd = true then J s tr else E e s tr)
        (calls.resetOnWorkLoopBegin svrWk pltfm) s tr)
    (h : I 0 s tr) :
    wp sys G (fun ok s tr => if ok = true then I serverWorkers.length s tr else J s tr) E
      (resetWorkers calls pltfm serverWorkers) s tr := by
  induction serverWorkers generalizing I s tr with
  | nil => exact h
  | cons svrWk serverWorkers ih =>
      apply wp_seq (R := fun ok s tr => if ok = true then I 1 s tr else J s tr)
      · apply wp_tryCatch.mpr
        apply wp_bind.mpr
        refine wp_mono (hreset 0 svrWk s tr rfl h) (fun _ _ _ h => h) fun e s tr h => ?_
        split_ifs with hstd
        · rwa [if_pos hstd] at h
        · rwa [if_neg hstd] at h
      · intro ok s tr h
        cases ok with
        | false => exact h
        | true => exact ih (fun k svrWk s tr hk => hreset (k + 1) svrWk s tr hk) h

theorem wp_initWorker {svrWk : W} {cntOk : ℕ} {Q : ℕ → σ → List (Event Ret Act Job) → Prop}
    (h : wp sys G
      (fun ok s tr => if ok = true then Q (cntOk + 1) s tr else
        wp sys G (fun ok => Q (if ok then cntOk + 1 else cntOk))
          (fun e s tr => if (e.isConnection || !e.isStd) = true then E e s tr else Q cntOk s tr)
          (calls.reinitWorkLoop svrWk pltfm) s tr)
      (fun _ _ _ => False) (calls.isWorkLoopInitOk svrWk) s tr) :
    wp sys G Q E (initWorker calls pltfm svrWk cntOk) s tr := by
  apply wp_tryCatch.mpr
  apply wp_bind.mpr
  refine wp_mono h ?_ fun _ _ _ h => h.elim
  intro ok s tr h
  cases ok with
  | true => exact h
  | false =>
      apply wp_bind.mpr
      refine wp_mono h ?_ ?_
      · intro ok s tr h
        cases ok with
        | false => exact h
        | true => exact h
      · intro e s tr h
        split_ifs with he
        · rwa [if_pos he] at h
        · rwa [if_neg he] at h

/-- `I k cntOk` holds when `cntOk` of the first `k` workers are ok. -/
theorem wp_initWorkers {I : ℕ → ℕ → σ → List (Event Ret Act Job) → Prop} {cntOk : ℕ}
    (hinit : ∀ k cntOk svrWk s tr, serverWorkers[k]? = some svrWk → I k cntOk s tr →
      wp sys G (I (k + 1)) E (initWorker calls pltfm svrWk cntOk) s tr)
    (h : I 0 cntOk s tr) :
    wp sys G (I serverWorkers.length) E (initWorkers calls pltfm serverWorkers cntOk) s tr := by
  induction serverWorkers generalizing I cntOk s tr with
  | nil => exact h
  | cons svrWk serverWorkers ih =>
      apply wp_seq (hinit 0 cntOk svrWk s tr rfl h)
      exact fun cntOk s tr h => ih (I := fun k => I (k + 1))
        (fun k cntOk svrWk s tr hk => hinit (k + 1) cntOk svrWk s tr hk) h

/-- `J` is kept by every try, and `K` holds after one that finds all workers ok. -/
theorem wp_tryInitWorkers {J K : σ → List (Event Ret Act Job) → Prop} {left : ℕ}
    (hcontinue : ∀ s tr, J s tr → wp sys G (fun _ => J) E calls.shouldContinueRunning s tr)
    (hinit : ∀ s tr, J s tr →
      wp sys G (fun cntOk s tr => if serverWorkers.length = cntOk then K s tr else J s tr) E
        (initWorkers calls pltfm serverWorkers 0) s tr)
    (hsleep : ∀ s tr, J s tr → wp sys G (fun _ => J) E calls.roughSleepWait s tr)
    (h : J s tr) :
    wp sys G (fun ok s tr => if ok = true then K s tr else J s tr) E
      (tryInitWorkers calls pltfm serverWorkers left) s tr := by
  induction left generalizing s tr with
  | zero => exact h
  | succ left ih =>
      apply wp_seq (hcontinue s tr h)
      intro continues s tr h
      cases continues with
      | false => exact h
      | true =>
          apply wp_seq (hinit s tr h)
          intro cntOk s tr h
          dsimp only
          by_cases hcnt : serverWorkers.length = cntOk
          · rw [if_pos hcnt] at h ⊢
            exact h
          rw [if_neg hcnt] at h ⊢
          by_cases hleft : 0 < left
          · rw [if_pos hleft]
            exact wp_seq (hsleep s tr h) fun _ s tr h => ih h
          · rw [if_neg hleft]
            exact ih h

end Reinit

/-! ### Rounds -/

/-- Where a worker is its position. -/
theorem range_at {n k i : ℕ} (h : (List.range n)[k]? = some i) : i = k ∧ k < n := by
  obtain ⟨hlt, hget⟩ := List.getElem?_eq_some_iff.mp h
  rw [List.length_range] at hlt
  rw [List.getElem_range] at hget
  exact ⟨hget.symm, hlt⟩

/-- Where a worker comes with its position. -/
theorem zipIdx_at {ws : List W} {k i : ℕ} {svrWk : W} (h : ws.zipIdx[k]? = some (svrWk, i)) :
    i = k := by
  rw [List.getElem?_zipIdx] at h
  obtain ⟨w, -, hw⟩ := Option.map_eq_some_iff.mp h
  have hi := congrArg Prod.snd hw
  rw [Nat.zero_add] at hi
  exact hi.symm

section Rounds

variable {calls : LoopCalls Ret W P T} {pltfm : P} {serverWorkers : List W}
  {L : σ → List (Event Ret Act Job) → Prop}

theorem wp_performWorker {svrWk : W} {C : σ → List (Event Ret Act Job) → Prop}
    (h : wp sys G (fun _ => C)
      (fun e s tr => if e.isFault = true then E e s tr else
        if e.isConnection = true then L s tr else C s tr)
      (calls.checkToPerform svrWk pltfm) s tr) :
    wp sys G (fun shouldReconnect s tr => if shouldReconnect = true then L s tr else C s tr) E
      (performWorker calls pltfm svrWk) s tr := by
  apply wp_tryCatch.mpr
  apply wp_bind.mpr
  refine wp_mono h (fun _ _ _ h => h) fun e s tr h => ?_
  split_ifs with hfault
  · rwa [if_pos hfault] at h
  · rwa [if_neg hfault] at h

/-- `I k minNext` holds when it is the turn of worker `k`, `C k minNext` when that worker
has been checked, and `L` when the server has to reconnect. -/
theorem wp_performWorkers {I C : ℕ → T → σ → List (Event Ret Act Job) → Prop} {minNext : T}
    (hcheck : ∀ k svrWk minNext s tr, serverWorkers[k]? = some svrWk → I k minNext s tr →
      wp sys G (fun shouldReconnect s tr => if shouldReconnect = true then L s tr else
        C k minNext s tr) E (performWorker calls pltfm svrWk) s tr)
    (hnext : ∀ k svrWk minNext s tr, serverWorkers[k]? = some svrWk → C k minNext s tr →
      wp sys G (I (k + 1)) E (calls.minNextTriggerTimepoint svrWk minNext) s tr)
    (h : I 0 minNext s tr) :
    wp sys G (fun minNext s tr => minNext.elim (L s tr) fun minNext =>
        I serverWorkers.length minNext s tr) E
      (performWorkers calls pltfm serverWorkers minNext) s tr := by
  induction serverWorkers generalizing I C minNext s tr with
  | nil => exact h
  | cons svrWk serverWorkers ih =>
      apply wp_seq (hcheck 0 svrWk minNext s tr rfl h)
      intro shouldReconnect s tr h
      cases shouldReconnect with
      | true => exact h
      | false =>
          apply wp_seq (hnext 0 svrWk minNext s tr rfl h)
          exact fun minNext s tr h => ih (I := fun k => I (k + 1)) (C := fun k => C (k + 1))
            (fun k svrWk minNext s tr hk => hcheck (k + 1) svrWk minNext s tr hk)
            (fun k svrWk minNext s tr hk => hnext (k + 1) svrWk minNext s tr hk) h

/-- `B` holds between two rounds, `A` where one begins and `D minNext` where it has ended. -/
theorem wp_performRounds {A B : σ → List (Event Ret Act Job) → Prop}
    {D : T → σ → List (Event Ret Act Job) → Prop} {rounds : ℕ} (hB : ∀ s tr, B s tr → L s tr)
    (hcontinue : ∀ s tr, B s tr →
      wp sys G (fun continues s tr => if continues = true then A s tr else L s tr) E
        calls.shouldContinueRunning s tr)
    (hround : ∀ s tr, A s tr →
      wp sys G (fun minNext => wp sys G
          (fun minNext s tr => minNext.elim (L s tr) fun minNext => D minNext s tr) E
          (performWorkers calls pltfm serverWorkers minNext)) E calls.beginRound s tr)
    (hsleep : ∀ minNext s tr, D minNext s tr →
      wp sys G (fun _ => B) E (calls.sleepUntil minNext) s tr)
    (h : B s tr) :
    wp sys G (fun _ => L) E (performRounds calls pltfm serverWorkers rounds) s tr := by
  induction rounds generalizing s tr with
  | zero => exact hB s tr h
  | succ rounds ih =>
      apply wp_seq (hcontinue s tr h)
      intro continues s tr h
      cases continues with
      | false => exact h
      | true =>
          apply wp_seq (hround s tr h)
          intro minNext s tr h
          apply wp_seq h
          intro minNext s tr h
          cases minNext with
          | none => exact h
          | some minNext =>
              apply wp_seq (hsleep minNext s tr h)
              exact fun _ s tr h => ih h

end Rounds

/-! ### Sessions -/

section Thread

variable {calls : ThreadCalls Ret W P T} {serverWorkers : List W} {rounds sessions : ℕ}
  {B C D : σ → List (Event Ret Act Job) → Prop}

/-- `I p` holds in a session on platform `p`, `R p` when its workers are initialized. -/
theorem wp_loopWork {I R : P → σ → List (Event Ret Act Job) → Prop}
    (hget : wp sys G (fun pltfm s tr => pltfm.elim (E (.assertion "pltfm") s tr) fun p => I p s tr)
      E calls.safeGetSlamwarePlatform s tr)
    (hreinit : ∀ p s tr, I p s tr →
      wp sys G (fun ok => wp sys G (fun _ s tr => if ok = true then R p s tr else D s tr) E
          (calls.reinitWorkLoopDone p ok)) E
        (reinitWorkLoop calls p serverWorkers) s tr)
    (hrounds : ∀ p s tr, R p s tr →
      wp sys G (fun _ => D) E (performRounds calls.toLoopCalls p serverWorkers rounds) s tr) :
    wp sys G (fun _ => D) E (loopWork calls serverWorkers rounds) s tr := by
  apply wp_seq hget
  intro pltfm s tr h
  cases pltfm with
  | none => exact h
  | some p =>
      apply wp_seq (hreinit p s tr h)
      intro ok s tr h
      apply wp_seq h
      intro _ s tr h
      cases ok with
      | false => exact h
      | true => exact hrounds p s tr h

/-- `B` holds between two sessions, `C` when there is a connection. -/
theorem wp_checkToConnect {N : σ → List (Event Ret Act Job) → Prop}
    (hask : ∀ s tr, B s tr →
      wp sys G (fun connected s tr => if connected = true then C s tr else N s tr) E
        calls.safeIsSlamwarePlatformConnected s tr)
    (htry : ∀ s tr, N s tr →
      wp sys G (fun _ => B) E calls.loopTryConnectToSlamwarePlatform s tr)
    (h : B s tr) :
    wp sys G (fun connected s tr => if connected = true then C s tr else N s tr) E
      (checkToConnect calls) s tr := by
  apply wp_seq (hask s tr h)
  intro connected s tr h
  cases connected with
  | true => exact h
  | false => exact wp_seq (htry s tr h) fun _ s tr h => hask s tr h

theorem wp_session
    (hask : wp sys G (fun connected s tr => if connected = true then C s tr else
        E (.assertion "safeIsSlamwarePlatformConnected_()") s tr) E
      calls.safeIsSlamwarePlatformConnected s tr)
    (hloop : ∀ s tr, C s tr →
      wp sys G (fun _ => D) (fun e s tr => if e.isFault = true then E e s tr else D s tr)
        (loopWork calls serverWorkers rounds) s tr)
    (hrelease : ∀ s tr, D s tr →
      wp sys G (fun _ => B) E calls.safeReleaseSlamwarePlatform s tr)
    (hcontinue : ∀ s tr, B s tr → wp sys G (fun _ => B) E calls.shouldContinueRunning s tr)
    (hsleep : ∀ s tr, B s tr → wp sys G (fun _ => B) E calls.roughSleepWait s tr) :
    wp sys G (fun _ => B) E (session calls serverWorkers rounds) s tr := by
  apply wp_seq hask
  intro connected s tr h
  cases connected with
  | false => exact h
  | true =>
      rw [boostAssert_of rfl, Prog.ofExcept_ok, Prog.ret_bind]
      apply wp_seq (R := fun _ => D)
      · refine wp_tryCatch.mpr (wp_mono (hloop s tr h) (fun _ _ _ h => h) fun e s tr h => ?_)
        split_ifs with hfault
        · rwa [if_pos hfault] at h
        · rwa [if_neg hfault] at h
      intro _ s tr h
      apply wp_seq (hrelease s tr h)
      intro _ s tr h
      apply wp_seq (hcontinue s tr h)
      intro continues s tr h
      cases continues with
      | false => exact h
      | true => exact hsleep s tr h

theorem wp_workThreadFun
    (hcontinue : ∀ s tr, B s tr → wp sys G (fun _ => B) E calls.shouldContinueRunning s tr)
    (hok : ∀ s tr, B s tr → wp sys G (fun _ => B) E calls.rclcppOk s tr)
    (hconnect : ∀ s tr, B s tr →
      wp sys G (fun connected s tr => if connected = true then C s tr else B s tr) E
        (checkToConnect calls) s tr)
    (hsession : ∀ s tr, C s tr →
      wp sys G (fun _ => B) E (session calls serverWorkers rounds) s tr)
    (h : B s tr) :
    wp sys G (fun _ => B) E (workThreadFun calls serverWorkers rounds sessions) s tr := by
  induction sessions generalizing s tr with
  | zero => exact h
  | succ sessions ih =>
      apply wp_seq (hcontinue s tr h)
      intro continues s tr h
      cases continues with
      | false => exact h
      | true =>
          apply wp_seq (hok s tr h)
          intro ok s tr h
          cases ok with
          | false => exact h
          | true =>
              apply wp_seq (hconnect s tr h)
              intro connected s tr h
              cases connected with
              | false => exact ih h
              | true =>
                  apply wp_seq (hsession s tr h)
                  exact fun _ s tr h => ih h

end Thread

end Rules

end Ros2WsDemo.WorkThread

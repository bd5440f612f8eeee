import Ros2WsDemo.Session.Platform

/-!
# Session safety

After a connection exception no worker performs before a whole new session has
begun: release, connection, resets, initialization.  The facts about the past
that a session rests on are collected break by break, each phase of the thread
adding one event to what is known about every earlier break.
-/

namespace Ros2WsDemo.PlatformSession

open Effect Trace WorkThread

/-! ## Events -/

/-- A worker has thrown a connection exception in the session of this platform. -/
def Broke (pltfm : ℕ) : ServerEvent → Prop
  | .op (.resetOnWorkLoopBegin _ p) r => p = pltfm ∧ ∃ e, r = .error e ∧ e.isConnection = true
  | .op (.reinitWorkLoop _ p) r => p = pltfm ∧ ∃ e, r = .error e ∧ e.isConnection = true
  | .op (.doPerform _ p) r => p = pltfm ∧ ∃ e, r = .error e ∧ e.isConnection = true
  | _ => False

def released (pltfm : ℕ) : ServerEvent := .op .safeReleaseSlamwarePlatform (some pltfm)

def connected (pltfm : ℕ) : ServerEvent := .op .connectSlamwarePlatform (some pltfm)

def hasReset (i pltfm : ℕ) : ServerEvent := .op (.resetOnWorkLoopBegin i pltfm) (.ok ())

/-- `reinitWorkLoop_` has returned true. -/
def reinitialized (pltfm : ℕ) : ServerEvent := .op (.reinitWorkLoopDone pltfm true) ()

/-- The thread takes the platform for a new session, or gives it up. -/
def LeavesSession : ServerEvent → Prop
  | .op .safeGetSlamwarePlatform _ => True
  | .op .safeReleaseSlamwarePlatform _ => True
  | .op .connectSlamwarePlatform _ => True
  | .op (.safeSetSlamwarePlatform _) _ => True
  | .op (.reinitWorkLoopDone _ _) _ => True
  | _ => False

/-- A worker's `doPerform` has thrown something that is no reason to reconnect. -/
def Swallowed (i : ℕ) : ServerEvent → Prop
  | .op (.doPerform j _) r =>
      j = i ∧ ∃ e, r = .error e ∧ e.isConnection = false ∧ e.isFault = false
  | _ => False

/-! ## What is known about every break -/

/-- `R` holds of the position and the platform of every break. -/
def EachBreak (R : List ServerEvent → ℕ → ℕ → Prop) (tr : List ServerEvent) : Prop :=
  ∀ e x q, tr[e]? = some x → Broke q x → R tr e q

def ReleasedAfter (tr : List ServerEvent) (e q : ℕ) : Prop :=
  ∃ rel, e < rel ∧ tr[rel]? = some (released q)

/-- The platform `q` was released after `e`, and `p` was connected at `con` after that. -/
def ReconnectedAt (tr : List ServerEvent) (e q p con : ℕ) : Prop :=
  ∃ rel, e < rel ∧ rel < con ∧ tr[rel]? = some (released q) ∧ tr[con]? = some (connected p)

/-- The first `n` workers were reset after `con`. -/
def ResetSince (tr : List ServerEvent) (n p con : ℕ) : Prop :=
  ∀ i < n, ∃ t, con < t ∧ tr[t]? = some (hasReset i p)

def AllReleased : List ServerEvent → Prop := EachBreak ReleasedAfter

/-- Only breaks of `p` may still wait for the release. -/
def Outstanding (p : ℕ) : List ServerEvent → Prop :=
  EachBreak fun tr e q => q = p ∨ ReleasedAfter tr e q

/-- A new session on `p` has come as far as resetting the first `n` workers. -/
def Reconnected (n p : ℕ) : List ServerEvent → Prop :=
  EachBreak fun tr e q => ∃ con, ReconnectedAt tr e q p con ∧ ResetSince tr n p con

/-- The workers may perform on `p`. -/
def Ready (n p : ℕ) (tr : List ServerEvent) : Prop :=
  ∃ ret, tr[ret]? = some (reinitialized p) ∧ NoneAfter LeavesSession tr ret ∧
    EachBreak (fun tr e q => ∃ con, con < ret ∧ ReconnectedAt tr e q p con ∧
      ∀ i < n, ∃ t, con < t ∧ t < ret ∧ tr[t]? = some (hasReset i p)) tr

section Breaks

variable {tr : List ServerEvent} {x : ServerEvent} {R R' : List ServerEvent → ℕ → ℕ → Prop}
  {n e p q con : ℕ}

theorem EachBreak.snoc (h : EachBreak R tr) (hx : ∀ q, ¬Broke q x)
    (hmono : ∀ e q, e < tr.length → R tr e q → R' (tr ++ [x]) e q) : EachBreak R' (tr ++ [x]) := by
  intro e y q hy hbroke
  rcases getElem?_snoc.mp hy with hy | ⟨-, rfl⟩
  · exact hmono e q (lt_length hy) (h e y q hy hbroke)
  · exact absurd hbroke (hx q)

theorem EachBreak.imp (h : EachBreak R tr) (himp : ∀ e q, R tr e q → R' tr e q) :
    EachBreak R' tr :=
  fun e y q hy hbroke => himp e q (h e y q hy hbroke)

theorem eachBreak_nil : EachBreak R [] := fun _ _ _ hy => nomatch hy

theorem ReleasedAfter.snoc (h : ReleasedAfter tr e q) (x : ServerEvent) :
    ReleasedAfter (tr ++ [x]) e q := by
  obtain ⟨rel, hlt, hrel⟩ := h
  exact ⟨rel, hlt, getElem?_snoc_of hrel x⟩

theorem ReconnectedAt.snoc (h : ReconnectedAt tr e q p con) (x : ServerEvent) :
    ReconnectedAt (tr ++ [x]) e q p con := by
  obtain ⟨rel, hlt, hlt', hrel, hcon⟩ := h
  exact ⟨rel, hlt, hlt', getElem?_snoc_of hrel x, getElem?_snoc_of hcon x⟩

theorem ReconnectedAt.releasedAfter (h : ReconnectedAt tr e q p con) : ReleasedAfter tr e q := by
  obtain ⟨rel, hlt, -, hrel, -⟩ := h
  exact ⟨rel, hlt, hrel⟩

theorem ResetSince.snoc (h : ResetSince tr n p con) (x : ServerEvent) :
    ResetSince (tr ++ [x]) n p con := by
  intro i hi
  obtain ⟨t, hlt, ht⟩ := h i hi
  exact ⟨t, hlt, getElem?_snoc_of ht x⟩

theorem AllReleased.snoc (h : AllReleased tr) (hx : ∀ q, ¬Broke q x) : AllReleased (tr ++ [x]) :=
  EachBreak.snoc h hx fun _ _ _ hr => hr.snoc x

theorem Outstanding.snoc (h : Outstanding p tr) (hx : ∀ q, ¬Broke q x) :
    Outstanding p (tr ++ [x]) :=
  EachBreak.snoc h hx fun _ _ _ hr => hr.imp_right fun hr => hr.snoc x

theorem Reconnected.snoc (h : Reconnected n p tr) (hx : ∀ q, ¬Broke q x) :
    Reconnected n p (tr ++ [x]) :=
  EachBreak.snoc h hx fun _ _ _ ⟨con, hcon, hreset⟩ => ⟨con, hcon.snoc x, hreset.snoc x⟩

theorem Ready.snoc (h : Ready n p tr) (hx : ∀ q, ¬Broke q x) (hleaves : ¬LeavesSession x) :
    Ready n p (tr ++ [x]) := by
  obtain ⟨ret, hret, hnone, hbreak⟩ := h
  refine ⟨ret, getElem?_snoc_of hret x, hnone.snoc hleaves, hbreak.snoc hx ?_⟩
  rintro e q - ⟨con, hlt, hcon, hreset⟩
  refine ⟨con, hlt, hcon.snoc x, fun i hi => ?_⟩
  obtain ⟨t, ht₁, ht₂, ht⟩ := hreset i hi
  exact ⟨t, ht₁, ht₂, getElem?_snoc_of ht x⟩

theorem Reconnected.allReleased (h : Reconnected n p tr) : AllReleased tr :=
  EachBreak.imp h fun _ _ ⟨_, hcon, _⟩ => hcon.releasedAfter

theorem Ready.allReleased (h : Ready n p tr) : AllReleased tr := by
  obtain ⟨ret, -, -, hbreak⟩ := h
  exact hbreak.imp fun _ _ ⟨_, _, hcon, _⟩ => hcon.releasedAfter

theorem AllReleased.outstanding (h : AllReleased tr) (p : ℕ) : Outstanding p tr :=
  EachBreak.imp h fun _ _ hr => Or.inr hr

/-- A break of the session's own platform. -/
theorem AllReleased.broke (h : AllReleased tr) (hx : Broke p x) : Outstanding p (tr ++ [x]) := by
  intro e y q hy hbroke
  rcases getElem?_snoc.mp hy with hy | ⟨-, rfl⟩
  · exact Or.inr ((h e y q hy hbroke).snoc x)
  · left
    rcases y with ⟨o, r⟩ | a | j
    · cases o <;> first | exact hbroke.elim | exact hbroke.1.symm.trans hx.1
    · exact hbroke.elim
    · exact hbroke.elim

theorem Outstanding.release (h : Outstanding p tr) : AllReleased (tr ++ [released p]) := by
  refine EachBreak.snoc h (fun _ hbroke => hbroke) ?_
  rintro e q he (rfl | hr)
  · exact ⟨tr.length, he, getElem?_snoc.mpr (Or.inr ⟨rfl, rfl⟩)⟩
  · exact hr.snoc _

theorem AllReleased.connect (h : AllReleased tr) (p : ℕ) :
    Reconnected 0 p (tr ++ [connected p]) := by
  refine EachBreak.snoc h (fun _ hbroke => hbroke) ?_
  rintro e q he ⟨rel, hlt, hrel⟩
  exact ⟨tr.length, ⟨rel, hlt, lt_length hrel, getElem?_snoc_of hrel _,
    getElem?_snoc.mpr (Or.inr ⟨rfl, rfl⟩)⟩, fun i hi => absurd hi i.not_lt_zero⟩

theorem Reconnected.reset (h : Reconnected n p tr) :
    Reconnected (n + 1) p (tr ++ [hasReset n p]) := by
  refine EachBreak.snoc h (fun _ hbroke => nomatch hbroke) ?_
  rintro e q he ⟨con, hcon, hreset⟩
  refine ⟨con, hcon.snoc _, fun i hi => ?_⟩
  rcases Nat.lt_succ_iff_lt_or_eq.mp hi with hi | rfl
  · exact hreset.snoc _ i hi
  · obtain ⟨rel, -, -, -, hcon⟩ := hcon
    exact ⟨tr.length, lt_length hcon, getElem?_snoc.mpr (Or.inr ⟨rfl, rfl⟩)⟩

theorem Reconnected.reinitialize (h : Reconnected n p tr) :
    Ready n p (tr ++ [reinitialized p]) := by
  refine ⟨tr.length, getElem?_snoc.mpr (Or.inr ⟨rfl, rfl⟩), noneAfter_length _ tr _, ?_⟩
  refine EachBreak.snoc h (fun _ hbroke => hbroke) ?_
  rintro e q he ⟨con, hcon, hreset⟩
  have hlt : con < tr.length := by
    obtain ⟨rel, -, -, -, hcon⟩ := hcon
    exact lt_length hcon
  refine ⟨con, hlt, hcon.snoc _, fun i hi => ?_⟩
  obtain ⟨t, ht₁, ht⟩ := hreset i hi
  exact ⟨t, ht₁, lt_length ht, getElem?_snoc_of ht _⟩

end Breaks

/-! ## Turns -/

/-- What the thread does with a worker in a round. -/
inductive Stage where
  | turn (i : ℕ)
  | perform (i : ℕ)

def Op.stage : Op → Option Stage
  | .checkToPerform i => some (.turn i)
  | .doPerform i _ => some (.perform i)
  | _ => none

/-- The round is over after this answer of a `doPerform`. -/
def endsRound : Except Exn Unit → Bool
  | .ok () => false
  | .error e => e.isConnection || e.isFault

/-- The turn that follows that of worker `i`. -/
def turnAfter (n i : ℕ) : Option Stage := if i + 1 < n then some (.turn (i + 1)) else none

/-- What has to come after an event in a round of `n` workers. -/
def awaited (n : ℕ) : ServerEvent → Option Stage
  | .op (.checkToPerform i) due => bif due then some (.perform i) else turnAfter n i
  | .op (.doPerform i _) r => if endsRound r = true then none else turnAfter n i
  | _ => none

/-- If the last event has to be followed by something, then by this. -/
def Awaiting (n : ℕ) (st : Stage) (tr : List ServerEvent) : Prop :=
  ∀ x st', tr.getLast? = some x → awaited n x = some st' → st' = st

/-- No worker is waiting for its turn. -/
def Calm (n : ℕ) (tr : List ServerEvent) : Prop :=
  ∀ x, tr.getLast? = some x → awaited n x = none

section Turns

variable {n i : ℕ} {st : Stage} {tr : List ServerEvent} {x : ServerEvent} {o : Op}

theorem turnAfter_eq_some (h : turnAfter n i = some st) : st = .turn (i + 1) ∧ i + 1 < n := by
  rw [turnAfter] at h
  split_ifs at h with hlt
  exact ⟨(Option.some.inj h).symm, hlt⟩

theorem awaited_of_stage_none (ho : o.stage = none) (r : Ret o) : awaited n (.op o r) = none := by
  cases o <;> first | rfl | cases ho

theorem lt_of_awaited_turn (h : awaited n x = some (.turn i)) : i < n := by
  rcases x with ⟨o, r⟩ | a | j
  · cases o with
    | checkToPerform j =>
        cases r with
        | true => cases h
        | false =>
            obtain ⟨heq, hlt⟩ := turnAfter_eq_some h
            cases heq
            exact hlt
    | doPerform j p =>
        simp only [awaited] at h
        split_ifs at h
        obtain ⟨heq, hlt⟩ := turnAfter_eq_some h
        cases heq
        exact hlt
    | _ => cases h
  · cases h
  · cases h

theorem Swallowed.awaited (h : Swallowed i x) (hi : i + 1 < n) :
    awaited n x = some (.turn (i + 1)) := by
  rcases x with ⟨o, r⟩ | a | j
  · cases o with
    | doPerform j p =>
        obtain ⟨rfl, e, rfl, hconn, hfault⟩ := h
        simp [PlatformSession.awaited, endsRound, hconn, hfault, turnAfter, hi]
    | _ => exact h.elim
  · exact h.elim
  · exact h.elim

theorem Calm.awaiting (h : Calm n tr) (st : Stage) : Awaiting n st tr := by
  intro x st' hx hst
  rw [h x hx] at hst
  cases hst

theorem Awaiting.calm (h : Awaiting n (.turn n) tr) : Calm n tr := by
  intro x hx
  cases hst : PlatformSession.awaited n x with
  | none => rfl
  | some st =>
      have heq := h x st hx hst
      subst heq
      exact absurd (lt_of_awaited_turn hst) (Nat.lt_irrefl n)

theorem calm_snoc (hx : awaited n x = none) : Calm n (tr ++ [x]) := by
  intro y hy
  rw [List.getLast?_concat] at hy
  cases hy
  exact hx

theorem awaiting_snoc (hx : ∀ st', awaited n x = some st' → st' = st) :
    Awaiting n st (tr ++ [x]) := by
  intro y st' hy hst
  rw [List.getLast?_concat] at hy
  cases hy
  exact hx st' hst

theorem calm_nil : Calm n [] := fun _ hx => nomatch hx

end Turns

/-! ## The thread -/

/-- Before an operation: a worker performs in a ready session only, and what the last
event asks for comes next. -/
def Guard (n : ℕ) (_ : State) (tr : List ServerEvent) (o : Op) : Prop :=
  (∀ i p, o = .doPerform i p → Ready n p tr) ∧
  ∀ x st, tr.getLast? = some x → awaited n x = some st → o.stage = some st

/-- An assertion about the platform and the past, with nobody waiting. -/
def Holds (n : ℕ) (slamwarePltfm : State) (A : List ServerEvent → Prop) (s : State)
    (tr : List ServerEvent) : Prop :=
  s = slamwarePltfm ∧ A tr ∧ Calm n tr

/-- Operations of which no event says anything about a session. -/
def Plain : Op → Prop
  | .shouldContinueRunning | .rclcppOk | .roughSleepWait | .sleepUntilNextTrigger => True
  | .getParameter _ | .safeIsSlamwarePlatformConnected | .isWorkLoopInitOk _ => True
  | _ => False

theorem Plain.not_broke {o : Op} (ho : Plain o) (r : Ret o) (q : ℕ) : ¬Broke q (.op o r) := by
  cases o <;> first | exact ho.elim | exact id

theorem Plain.not_leaves {o : Op} (ho : Plain o) (r : Ret o) : ¬LeavesSession (.op o r) := by
  cases o <;> first | exact ho.elim | exact id

theorem Plain.stage_eq {o : Op} (ho : Plain o) : o.stage = none := by
  cases o <;> first | exact ho.elim | rfl

theorem Plain.state_eq {o : Op} (ho : Plain o) {s s' : State} {r : Ret o}
    (h : system.handle s o r s') : s' = s := by
  cases o <;> first | exact ho.elim | exact h | exact h.2

theorem Calm.guard {n : ℕ} {s : State} {tr : List ServerEvent} {o : Op} (h : Calm n tr)
    (ho : o.stage = none) : Guard n s tr o := by
  refine ⟨?_, fun x st hx hst => ?_⟩
  · rintro i p rfl
    cases ho
  · rw [h x hx] at hst
    cases hst

/-- Appending plain events keeps the assertion. -/
def Lasting (A : List ServerEvent → Prop) : Prop :=
  ∀ tr x, A tr → (∀ q, ¬Broke q x) → ¬LeavesSession x → A (tr ++ [x])

theorem lasting_allReleased : Lasting AllReleased := fun _ _ h hx _ => h.snoc hx

theorem lasting_reconnected {n p : ℕ} : Lasting (Reconnected n p) := fun _ _ h hx _ => h.snoc hx

theorem lasting_ready {n p : ℕ} : Lasting (Ready n p) := fun _ _ h hx hl => h.snoc hx hl

section Thread

variable {n p : ℕ} {s s' : State} {tr : List ServerEvent} {A B : List ServerEvent → Prop}
  {pl pl' : State} {α : Type}

theorem stable (P : State → List ServerEvent → Prop) : Stable system P :=
  fun _ _ a _ _ _ => a.elim

/-- One operation that does not belong to a worker's turn. -/
theorem wp_op {o : Op} {Q : Ret o → State → List ServerEvent → Prop}
    {E : Exn → State → List ServerEvent → Prop} (h : Holds n pl A s tr) (ho : o.stage = none)
    (hQ : ∀ tr r s', A tr → system.handle pl o r s' → Calm n (tr ++ [.op o r]) →
      Q r s' (tr ++ [.op o r])) :
    wp system (Guard n) Q E (perform o) s tr := by
  refine wp_perform (P := Holds n pl A) (stable _) h ?_ ?_
  · exact fun s tr h => h.2.2.guard ho
  · rintro s tr r s' ⟨rfl, hA, -⟩ hr
    exact hQ tr r s' hA hr (calm_snoc (awaited_of_stage_none ho r))

theorem wp_plain {o : Op} (ho : Plain o) (hA : Lasting A) (h : Holds n pl A s tr)
    {E : Exn → State → List ServerEvent → Prop} :
    wp system (Guard n) (fun r s tr => Holds n pl A s tr ∧ system.handle pl o r pl) E
      (perform o) s tr := by
  refine wp_op h ho.stage_eq ?_
  intro tr r s' hpast hr hcalm
  have hstate := ho.state_eq hr
  subst hstate
  exact ⟨⟨rfl, hA tr _ hpast (ho.not_broke r) (ho.not_leaves r), hcalm⟩, hr⟩

theorem wp_plain_keep {o : Op} (ho : Plain o) (hA : Lasting A) (h : Holds n pl A s tr)
    {E : Exn → State → List ServerEvent → Prop} :
    wp system (Guard n) (fun _ => Holds n pl A) E (perform o) s tr :=
  wp_mono (wp_plain ho hA h) (fun _ _ _ h => h.1) fun _ _ _ h => h

/-- A program of plain operations. -/
theorem wp_plains {q : ServerM α} (hq : q.Uses Plain) (hA : Lasting A) (h : Holds n pl A s tr) :
    wp system (Guard n) (fun _ => Holds n pl A) (fun _ => Holds n pl A) q s tr := by
  refine wp_of_uses hq (stable _) h ?_ ?_
  · exact fun s tr o ho h => h.2.2.guard ho.stage_eq
  · rintro s tr o r s' ho ⟨rfl, hpast, -⟩ hr
    exact ⟨ho.state_eq hr, hA tr _ hpast (ho.not_broke r) (ho.not_leaves r),
      calm_snoc (awaited_of_stage_none ho.stage_eq r)⟩

theorem plain_getParameter (name : String) : (getParameter name).Uses Plain :=
  (Prog.uses_perform (o := Op.getParameter name) trivial).bind Prog.uses_ofExcept

/-! ### Resets and initialization -/

/-- The session of `p` is over, or may be. -/
def Ended (n p : ℕ) : State → List ServerEvent → Prop := Holds n (some p) (Outstanding p)

theorem Holds.ended (h : Holds n (some p) A s tr) (hA : A tr → AllReleased tr) : Ended n p s tr :=
  ⟨h.1, (hA h.2.1).outstanding p, h.2.2⟩

/-- What the call of a worker's virtual function leaves of an assertion. -/
theorem past_of_call (hA : Lasting A) (hreleased : ∀ tr, A tr → AllReleased tr) (h : A tr)
    {x : ServerEvent} (hx : ∀ q, Broke q x → q = p) (hl : ¬LeavesSession x) :
    Outstanding p (tr ++ [x]) ∧ ((∀ q, ¬Broke q x) → A (tr ++ [x])) := by
  refine ⟨?_, fun hnot => hA tr x h hnot hl⟩
  by_cases hbroke : ∃ q, Broke q x
  · obtain ⟨q, hq⟩ := hbroke
    have heq := hx q hq
    subst heq
    exact (hreleased tr h).broke hq
  · exact (hreleased _ (hA tr x h (fun q hq => hbroke ⟨q, hq⟩) hl)).outstanding p

theorem wp_resetOnWorkLoopBegin (i : ℕ) (h : Holds n (some p) (Reconnected i p) s tr) :
    wp system (Guard n) (fun _ => Holds n (some p) (Reconnected (i + 1) p)) (fun _ => Ended n p)
      (resetOnWorkLoopBegin i p) s tr := by
  apply wp_seq (R := fun (r : Except Exn Unit) s tr =>
    Ended n p s tr ∧ (r = .ok () → Holds n (some p) (Reconnected (i + 1) p) s tr))
  · refine wp_op h rfl ?_
    rintro tr r s' h rfl hcalm
    obtain ⟨hout, -⟩ := past_of_call (p := p)
      (x := .op (.resetOnWorkLoopBegin i p) r) lasting_reconnected
      (fun _ => Reconnected.allReleased) h (fun q hq => hq.1.symm) id
    refine ⟨⟨rfl, hout, hcalm⟩, ?_⟩
    rintro rfl
    exact ⟨rfl, h.reset, hcalm⟩
  · intro r s tr h
    cases r with
    | ok _ => exact h.2 rfl
    | error e => exact h.1

theorem wp_resetWorkers (tries : ℕ) (h : Holds n (some p) (Reconnected 0 p) s tr) :
    wp system (Guard n)
      (fun ok s tr => if ok = true then Holds n (some p) (Reconnected n p) s tr else Ended n p s tr)
      (fun _ => Ended n p) (resetWorkers (threadCalls tries) p (List.range n)) s tr := by
  have hreset : wp system (Guard n)
      (fun ok s tr => if ok = true then
        Holds n (some p) (Reconnected (List.range n).length p) s tr else Ended n p s tr)
      (fun _ => Ended n p) (resetWorkers (threadCalls tries) p (List.range n)) s tr := by
    refine WorkThread.wp_resetWorkers (I := fun k => Holds n (some p) (Reconnected k p)) ?_ h
    intro k i s tr hk h
    obtain ⟨rfl, -⟩ := range_at hk
    exact wp_mono (wp_resetOnWorkLoopBegin i h) (fun _ _ _ h => h)
      fun e _ _ h => (ite_self (c := e.isStd = true) _).mpr h
  rwa [List.length_range] at hreset

/-- Only an exception that breaks the connection ends the session. -/
theorem wp_workerReinitWorkLoop (i : ℕ) (h : Holds n (some p) (Reconnected n p) s tr) :
    wp system (Guard n) (fun _ => Holds n (some p) (Reconnected n p))
      (fun e s tr => Ended n p s tr ∧
        (e.isConnection = false → Holds n (some p) (Reconnected n p) s tr))
      (workerReinitWorkLoop i p) s tr := by
  apply wp_seq (R := fun (r : Except Exn Bool) s tr => Ended n p s tr ∧
    ((∀ e, r = .error e → e.isConnection = false) → Holds n (some p) (Reconnected n p) s tr))
  · refine wp_op h rfl ?_
    rintro tr r s' h rfl hcalm
    obtain ⟨hout, hkeep⟩ := past_of_call (p := p) (x := .op (.reinitWorkLoop i p) r)
      lasting_reconnected (fun _ => Reconnected.allReleased) h (fun q hq => hq.1.symm) id
    refine ⟨⟨rfl, hout, hcalm⟩, fun hr => ⟨rfl, hkeep ?_, hcalm⟩⟩
    rintro q ⟨-, e, he, hconn⟩
    rw [hr e he] at hconn
    cases hconn
  · intro r s tr h
    cases r with
    | ok _ => exact h.2 (by simp)
    | error e =>
        refine ⟨h.1, fun hconn => h.2 fun e' he' => ?_⟩
        cases he'
        exact hconn

theorem wp_initWorker (tries i cntOk : ℕ) (h : Holds n (some p) (Reconnected n p) s tr) :
    wp system (Guard n) (fun _ => Holds n (some p) (Reconnected n p)) (fun _ => Ended n p)
      (initWorker (threadCalls tries) p i cntOk) s tr := by
  apply WorkThread.wp_initWorker
  refine wp_mono (wp_plain (o := .isWorkLoopInitOk i) trivial lasting_reconnected h) ?_
    fun _ _ _ h => h
  rintro initOk s tr ⟨h, -⟩
  split_ifs
  · exact h
  refine wp_mono (wp_workerReinitWorkLoop i h) (fun _ _ _ h => h) fun e s tr h => ?_
  split_ifs with he
  · exact h.1
  · simp only [Bool.or_eq_true, not_or, Bool.not_eq_true] at he
    exact h.2 he.1

theorem wp_tryInitWorkers (tries left : ℕ) (h : Holds n (some p) (Reconnected n p) s tr) :
    wp system (Guard n) (fun _ => Holds n (some p) (Reconnected n p)) (fun _ => Ended n p)
      (tryInitWorkers (threadCalls tries) p (List.range n) left) s tr := by
  have hkeep : wp system (Guard n)
      (fun ok s tr => if ok = true then Holds n (some p) (Reconnected n p) s tr
        else Holds n (some p) (Reconnected n p) s tr)
      (fun _ => Ended n p) (tryInitWorkers (threadCalls tries) p (List.range n) left) s tr := by
    refine WorkThread.wp_tryInitWorkers ?_ ?_ ?_ h
    · exact fun s tr h => wp_plain_keep (o := .shouldContinueRunning) trivial lasting_reconnected h
    · intro s tr h
      refine wp_mono (WorkThread.wp_initWorkers
        (I := fun _ _ => Holds n (some p) (Reconnected n p))
        (fun _ cntOk i _ _ _ h => wp_initWorker tries i cntOk h) h) ?_ fun _ _ _ h => h
      exact fun _ _ _ h => (ite_self _).mpr h
    · exact fun s tr h => wp_plain_keep (o := .roughSleepWait) trivial lasting_reconnected h
  exact wp_mono hkeep (fun _ _ _ h => (ite_self _).mp h) fun _ _ _ h => h

theorem wp_reinitWorkLoop (tries : ℕ) (h : Holds n (some p) (Reconnected 0 p) s tr) :
    wp system (Guard n)
      (fun ok s tr => if ok = true then Holds n (some p) (Reconnected n p) s tr else Ended n p s tr)
      (fun _ => Ended n p) (reinitWorkLoop (threadCalls tries) p (List.range n)) s tr := by
  apply wp_seq (wp_resetWorkers tries h)
  intro ok s tr h
  cases ok with
  | false => exact h
  | true =>
      refine wp_mono (wp_tryInitWorkers tries maxLoopTryCnt h) ?_ fun _ _ _ h => h
      intro ok s tr h
      split_ifs
      · exact h
      · exact h.ended Reconnected.allReleased

/-! ### Rounds -/

/-- In a round on `p`, with the thread about to go on with this stage. -/
def RoundAt (n p : ℕ) (st : Stage) (s : State) (tr : List ServerEvent) : Prop :=
  s = some p ∧ Ready n p tr ∧ Awaiting n st tr

/-- The turn of worker `i` is over. -/
theorem roundAt_after {i : ℕ} {x : ServerEvent} (hready : Ready n p (tr ++ [x]))
    (hx : awaited n x = turnAfter n i) : RoundAt n p (.turn (i + 1)) (some p) (tr ++ [x]) := by
  refine ⟨rfl, hready, awaiting_snoc fun st hst => ?_⟩
  rw [hx] at hst
  exact (turnAfter_eq_some hst).1

theorem wp_isDue (i : ℕ) (h : RoundAt n p (.turn i) s tr)
    {E : Exn → State → List ServerEvent → Prop} :
    wp system (Guard n)
      (fun due => RoundAt n p (if due = true then .perform i else .turn (i + 1))) E
      (perform (.checkToPerform i)) s tr := by
  refine wp_perform (P := RoundAt n p (.turn i)) (stable _) h ?_ ?_
  · rintro s tr ⟨-, -, hawait⟩
    refine ⟨by simp, fun x st hx hst => ?_⟩
    rw [hawait x st hx hst]
    rfl
  · rintro s tr due s' ⟨rfl, hready, -⟩ rfl
    have hready' := hready.snoc (x := .op (.checkToPerform i) due) (fun _ => id) id
    cases due with
    | false => exact roundAt_after hready' rfl
    | true => exact ⟨rfl, hready', awaiting_snoc fun st hst => (Option.some.inj hst).symm⟩

theorem wp_doPerform (i : ℕ) (h : RoundAt n p (.perform i) s tr) :
    wp system (Guard n) (fun _ => RoundAt n p (.turn (i + 1)))
      (fun e s tr => if e.isConnection = true ∨ e.isFault = true then Ended n p s tr
        else RoundAt n p (.turn (i + 1)) s tr)
      (doPerform i p) s tr := by
  apply wp_seq (R := fun (r : Except Exn Unit) s tr => if endsRound r = true then Ended n p s tr
    else RoundAt n p (.turn (i + 1)) s tr)
  · refine wp_perform (P := RoundAt n p (.perform i)) (stable _) h ?_ ?_
    · rintro s tr ⟨-, hready, hawait⟩
      constructor
      · intro j q ho
        cases ho
        exact hready
      · intro x st hx hst
        rw [hawait x st hx hst]
        rfl
    · rintro s tr r s' ⟨rfl, hready, -⟩ rfl
      obtain ⟨hout, hkeep⟩ := past_of_call (p := p) (x := .op (.doPerform i p) r)
        lasting_ready (fun _ => Ready.allReleased) hready (fun q hq => hq.1.symm) id
      split_ifs with hends
      · exact ⟨rfl, hout, calm_snoc (if_pos hends)⟩
      · refine roundAt_after (hkeep ?_) (if_neg hends)
        rintro q ⟨-, e, rfl, hconn⟩
        simp [endsRound, hconn] at hends
  · intro r s tr h
    cases r with
    | ok _ => exact h
    | error e =>
        simp only [endsRound, Bool.or_eq_true] at h
        exact h

theorem wp_performWorker (i : ℕ) (h : RoundAt n p (.turn i) s tr) :
    wp system (Guard n)
      (fun shouldReconnect s tr => if shouldReconnect = true then Ended n p s tr
        else RoundAt n p (.turn (i + 1)) s tr)
      (fun _ => Ended n p) (performWorker loopCalls p i) s tr := by
  apply WorkThread.wp_performWorker
  apply wp_seq (wp_isDue i h)
  intro due s tr h
  cases due with
  | false => exact h
  | true =>
      refine wp_mono (wp_doPerform i h) (fun _ _ _ h => h) fun e s tr h => ?_
      split_ifs with hfault hconn
      · rwa [if_pos (Or.inr hfault)] at h
      · rwa [if_pos (Or.inl hconn)] at h
      · rwa [if_neg fun hor => hor.elim hconn hfault] at h

theorem wp_performWorkers (h : Holds n (some p) (Ready n p) s tr) :
    wp system (Guard n)
      (fun minNext s tr => minNext.elim (Ended n p s tr) fun _ =>
        Holds n (some p) (Ready n p) s tr)
      (fun _ => Ended n p) (performWorkers loopCalls p (List.range n) ()) s tr := by
  have hround : RoundAt n p (.turn 0) s tr := ⟨h.1, h.2.1, h.2.2.awaiting _⟩
  refine wp_mono (WorkThread.wp_performWorkers (L := Ended n p)
    (I := fun k _ => RoundAt n p (.turn k)) (C := fun k _ => RoundAt n p (.turn (k + 1))) ?_
    (fun _ _ _ _ _ _ h => h) hround) ?_ fun _ _ _ h => h
  · intro k i _ s tr hk h
    obtain ⟨rfl, -⟩ := range_at hk
    exact wp_performWorker i h
  · intro minNext s tr h
    cases minNext with
    | none => exact h
    | some _ =>
        obtain ⟨hs, hready, hawait⟩ := h
        rw [List.length_range] at hawait
        exact ⟨hs, hready, hawait.calm⟩

theorem wp_performRounds (rounds : ℕ) (h : Holds n (some p) (Ready n p) s tr) :
    wp system (Guard n) (fun _ => Ended n p) (fun _ => Ended n p)
      (performRounds loopCalls p (List.range n) rounds) s tr := by
  have hended : ∀ s tr, Holds n (some p) (Ready n p) s tr → Ended n p s tr :=
    fun s tr h => h.ended Ready.allReleased
  refine WorkThread.wp_performRounds (A := Holds n (some p) (Ready n p))
    (D := fun _ => Holds n (some p) (Ready n p)) hended ?_ ?_ ?_ h
  · intro s tr h
    refine wp_mono (wp_plain_keep (o := .shouldContinueRunning) trivial lasting_ready h) ?_
      fun _ _ _ h => h
    intro continues s tr h
    split_ifs
    · exact h
    · exact hended s tr h
  · exact fun s tr h => wp_performWorkers h
  · exact fun _ s tr h => wp_plain_keep (o := .sleepUntilNextTrigger) trivial lasting_ready h

/-! ### Sessions -/

theorem wp_getPlatform (h : Holds n (some p) (Reconnected 0 p) s tr)
    {E : Exn → State → List ServerEvent → Prop} :
    wp system (Guard n)
      (fun pltfm s tr => pltfm.elim (Ended n p s tr) fun q =>
        q = p ∧ Holds n (some p) (Reconnected 0 p) s tr) E
      (perform .safeGetSlamwarePlatform) s tr := by
  refine wp_op h rfl ?_
  rintro tr r s' h ⟨rfl, rfl⟩ hcalm
  exact ⟨rfl, rfl, h.snoc fun _ => id, hcalm⟩

theorem wp_reinitWorkLoopDone (ok : Bool)
    (h : if ok = true then Holds n (some p) (Reconnected n p) s tr else Ended n p s tr)
    {E : Exn → State → List ServerEvent → Prop} :
    wp system (Guard n)
      (fun _ s tr => if ok = true then Holds n (some p) (Ready n p) s tr else Ended n p s tr) E
      (perform (.reinitWorkLoopDone p ok)) s tr := by
  cases ok with
  | true =>
      refine wp_op h rfl ?_
      rintro tr r s' h rfl hcalm
      exact ⟨rfl, h.reinitialize, hcalm⟩
  | false =>
      refine wp_op h rfl ?_
      rintro tr r s' h rfl hcalm
      exact ⟨rfl, h.snoc fun _ => id, hcalm⟩

theorem wp_loopWork (tries rounds : ℕ) (h : Holds n (some p) (Reconnected 0 p) s tr) :
    wp system (Guard n) (fun _ => Ended n p) (fun _ => Ended n p)
      (loopWork (threadCalls tries) (List.range n) rounds) s tr := by
  refine WorkThread.wp_loopWork
    (I := fun q s tr => q = p ∧ Holds n (some p) (Reconnected 0 p) s tr)
    (R := fun q s tr => q = p ∧ Holds n (some p) (Ready n p) s tr) (wp_getPlatform h) ?_ ?_
  · rintro q s tr ⟨rfl, h⟩
    refine wp_mono (wp_reinitWorkLoop tries h) (fun ok s tr h => ?_) fun _ _ _ h => h
    refine wp_mono (wp_reinitWorkLoopDone ok h) (fun _ s tr h => ?_) fun _ _ _ h => h
    split_ifs with hok
    · rw [if_pos hok] at h
      exact ⟨rfl, h⟩
    · rwa [if_neg hok] at h
  · rintro q s tr ⟨rfl, h⟩
    exact wp_performRounds rounds h

/-- Between two sessions: nothing held, or a fresh connection. -/
def Between (n : ℕ) (s : State) (tr : List ServerEvent) : Prop :=
  Holds n none AllReleased s tr ∨ ∃ p, Holds n (some p) (Reconnected 0 p) s tr

theorem Between.calm (h : Between n s tr) : Calm n tr := by
  rcases h with h | ⟨p, h⟩
  · exact h.2.2
  · exact h.2.2

theorem wp_loopTryConnect (tries : ℕ) (h : Holds n none AllReleased s tr) :
    wp system (Guard n) (fun _ => Between n) (fun _ _ => Calm n)
      (loopTryConnectToSlamwarePlatform tries) s tr := by
  have hparameter : ∀ name {s tr}, Holds n none AllReleased s tr →
      wp system (Guard n) (fun _ => Holds n none AllReleased) (fun _ _ => Calm n)
        (getParameter name) s tr := fun name s tr h =>
    wp_mono (wp_plains (plain_getParameter name) lasting_allReleased h) (fun _ _ _ h => h)
      fun _ _ _ h => h.2.2
  induction tries generalizing s tr with
  | zero => exact Or.inl h
  | succ tries ih =>
      apply wp_seq (wp_plain (o := .shouldContinueRunning) trivial lasting_allReleased h)
      rintro continued s tr ⟨h, -⟩
      cases continued with
      | false => exact Or.inl h
      | true =>
          apply wp_seq (hparameter "ip_address" h)
          intro _ s tr h
          apply wp_seq (hparameter "robot_port" h)
          intro _ s tr h
          apply wp_seq (R := fun pltfm s tr => pltfm.elim (Holds n none AllReleased s tr)
            fun p => Holds n none (Reconnected 0 p) s tr)
          · refine wp_op h rfl ?_
            rintro tr r s' h rfl hcalm
            cases r with
            | none => exact ⟨rfl, h.snoc fun _ => id, hcalm⟩
            | some p => exact ⟨rfl, h.connect p, hcalm⟩
          intro pltfm s tr h
          cases pltfm with
          | some p =>
              refine wp_op h rfl ?_
              rintro tr r s' h rfl hcalm
              exact Or.inr ⟨p, rfl, h.snoc fun _ => id, hcalm⟩
          | none =>
              apply wp_seq (hparameter "reconn_wait_ms" h)
              intro _ s tr h
              apply wp_seq (hparameter "reconn_wait_ms" h)
              intro _ s tr h
              apply wp_seq (wp_plain (o := .roughSleepWait) trivial lasting_allReleased h)
              exact fun _ s tr h => ih h.1

/-- Asking whether there is a connection. -/
theorem wp_isConnected (h : Between n s tr) {E : Exn → State → List ServerEvent → Prop} :
    wp system (Guard n)
      (fun connected s tr => if connected = true then
          ∃ p, Holds n (some p) (Reconnected 0 p) s tr
        else Holds n none AllReleased s tr)
      E (perform .safeIsSlamwarePlatformConnected) s tr := by
  rcases h with h | ⟨p, h⟩
  · refine wp_mono (wp_plain (o := .safeIsSlamwarePlatformConnected) trivial
      lasting_allReleased h) ?_ fun _ _ _ h => h
    rintro connected s tr ⟨h, rfl, -⟩
    exact h
  · refine wp_mono (wp_plain (o := .safeIsSlamwarePlatformConnected) trivial
      lasting_reconnected h) ?_ fun _ _ _ h => h
    rintro connected s tr ⟨h, rfl, -⟩
    exact ⟨p, h⟩

theorem wp_session (tries rounds : ℕ) (h : Holds n (some p) (Reconnected 0 p) s tr) :
    wp system (Guard n) (fun _ => Between n) (fun _ _ => Calm n)
      (session (threadCalls tries) (List.range n) rounds) s tr := by
  have hsession : wp system (Guard n) (fun _ => Holds n none AllReleased) (fun _ _ => Calm n)
      (session (threadCalls tries) (List.range n) rounds) s tr := by
    refine WorkThread.wp_session (C := Holds n (some p) (Reconnected 0 p)) (D := Ended n p)
      ?_ ?_ ?_ ?_ ?_
    · refine wp_mono (wp_plain (o := .safeIsSlamwarePlatformConnected) trivial
        lasting_reconnected h) ?_ fun _ _ _ h => h
      rintro connected s tr ⟨h, rfl, -⟩
      exact h
    · refine fun s tr h => wp_mono (wp_loopWork tries rounds h) (fun _ _ _ h => h) ?_
      intro e s tr h
      split_ifs
      · exact h.2.2
      · exact h
    · intro s tr h
      refine wp_seq (R := fun _ => Holds n none AllReleased) (wp_op h rfl ?_) fun _ _ _ h => h
      rintro tr r s' h ⟨rfl, rfl⟩ hcalm
      exact ⟨rfl, h.release, hcalm⟩
    · exact fun s tr h => wp_plain_keep (o := .shouldContinueRunning) trivial lasting_allReleased h
    · exact fun s tr h => wp_plain_keep (o := .roughSleepWait) trivial lasting_allReleased h
  exact wp_mono hsession (fun _ _ _ h => Or.inl h) fun _ _ _ h => h

theorem wp_plain_between {o : Op} (ho : Plain o) (h : Between n s tr)
    {E : Exn → State → List ServerEvent → Prop} :
    wp system (Guard n) (fun _ => Between n) E (perform o) s tr := by
  rcases h with h | ⟨p, h⟩
  · exact wp_mono (wp_plain_keep ho lasting_allReleased h) (fun _ _ _ h => Or.inl h)
      fun _ _ _ h => h
  · exact wp_mono (wp_plain_keep ho lasting_reconnected h) (fun _ _ _ h => Or.inr ⟨p, h⟩)
      fun _ _ _ h => h

theorem wp_workThreadFun (tries rounds sessions : ℕ) (h : Between n s tr) :
    wp system (Guard n) (fun _ _ => Calm n) (fun _ _ => Calm n)
      (workThreadFun (threadCalls tries) (List.range n) rounds sessions) s tr := by
  refine wp_mono (WorkThread.wp_workThreadFun (B := Between n)
    (C := fun s tr => ∃ p, Holds n (some p) (Reconnected 0 p) s tr) ?_ ?_ ?_ ?_ h)
    (fun _ _ _ h => h.calm) fun _ _ _ h => h
  · exact fun s tr h => wp_plain_between (o := .shouldContinueRunning) trivial h
  · exact fun s tr h => wp_plain_between (o := .rclcppOk) trivial h
  · intro s tr h
    refine wp_mono (WorkThread.wp_checkToConnect (fun s tr h => wp_isConnected h)
      (fun s tr h => wp_loopTryConnect tries h) h) ?_ fun _ _ _ h => h
    intro connected s tr h
    split_ifs with hconnected
    · rwa [if_pos hconnected] at h
    · rw [if_neg hconnected] at h
      exact Or.inl h
  · rintro s tr ⟨p, h⟩
    exact wp_session tries rounds h

end Thread

/-! ## Every run -/

section Runs

variable {n tries rounds sessions : ℕ} {slamwarePltfm : State} {c : ServerConfig}

theorem wp_run
    (h : Reachable system noJobs (ServerConfig.init n tries rounds sessions slamwarePltfm) c) :
    wp system (Guard n) (fun _ _ => Calm n) (fun _ _ => Calm n) c.prog c.state c.trace := by
  refine wp_reachable (fun _ => stable _) (fun _ => stable _) (fun j => j.elim) ?_ h
  apply wp_workThreadFun
  cases slamwarePltfm with
  | none => exact Or.inl ⟨rfl, eachBreak_nil, calm_nil⟩
  | some p => exact Or.inr ⟨p, rfl, eachBreak_nil, calm_nil⟩

/-- Every event so far came in its turn. -/
structure InTurn (n : ℕ) (tr : List ServerEvent) : Prop where
  ready : ∀ j i p r, tr[j]? = some (.op (.doPerform i p) r) → Ready n p (tr.take j)
  next : ∀ e x st, tr[e]? = some x → awaited n x = some st → e + 1 < tr.length →
    ∃ o r, tr[e + 1]? = some (.op o r) ∧ o.stage = some st

theorem inTurn_nil : InTurn n [] where
  ready _ _ _ _ hj := nomatch hj
  next _ _ _ he := nomatch he

theorem getLast?_of_end {tr : List ServerEvent} {e : ℕ} {x : ServerEvent} (he : tr[e]? = some x)
    (hend : e + 1 = tr.length) : tr.getLast? = some x := by
  rw [List.getLast?_eq_getElem?, ← hend]
  exact he

theorem InTurn.snoc {s : State} {tr : List ServerEvent} {o : Op} {r : Ret o} (h : InTurn n tr)
    (hguard : Guard n s tr o) : InTurn n (tr ++ [.op o r]) where
  ready := by
    intro j i p r' hj
    rcases getElem?_snoc.mp hj with hj | ⟨rfl, hop⟩
    · rw [take_snoc hj]
      exact h.ready j i p r' hj
    · cases hop
      rw [List.take_left]
      exact hguard.1 i p rfl
  next := by
    intro e x st he hst hlt
    rcases getElem?_snoc.mp he with he | ⟨rfl, rfl⟩
    · rcases Nat.lt_or_ge (e + 1) tr.length with hlt' | hge
      · obtain ⟨o', r', hnext, ho'⟩ := h.next e x st he hst hlt'
        exact ⟨o', r', getElem?_snoc_of hnext _, ho'⟩
      · have hend : e + 1 = tr.length := le_antisymm (lt_length he) hge
        have ho := hguard.2 x st (getLast?_of_end he hend) hst
        exact ⟨o, r, getElem?_snoc.mpr (Or.inr ⟨hend, rfl⟩), ho⟩
    · rw [List.length_append, List.length_singleton] at hlt
      omega

theorem inTurn_run
    (h : Reachable system noJobs (ServerConfig.init n tries rounds sessions slamwarePltfm) c) :
    InTurn n c.trace := by
  refine invariant_reachable (G := Guard n) (I := fun _ tr => InTurn n tr)
    inTurn_nil ?_ ?_ (stable _) (fun _ _ j => j.elim) h
  · intro c hreach o k hprog
    have hwp := wp_run hreach
    rw [hprog] at hwp
    exact (hwp _ _ .refl).1
  · exact fun s tr o r s' h hguard _ => h.snoc hguard

/-- What the last event asks for is what the thread does next. -/
theorem next_of_awaited
    (h : Reachable system noJobs (ServerConfig.init n tries rounds sessions slamwarePltfm) c)
    {x : ServerEvent} {st : Stage} (hlast : c.trace.getLast? = some x)
    (hst : awaited n x = some st) : ∃ o, c.prog.next = some o ∧ o.stage = some st := by
  have hwp := wp_run h
  cases hprog : c.prog with
  | ret a =>
      rw [hprog] at hwp
      exact nomatch hst.symm.trans (hwp x hlast)
  | throw e =>
      rw [hprog] at hwp
      exact nomatch hst.symm.trans (hwp x hlast)
  | call o k =>
      rw [hprog] at hwp
      exact ⟨o, rfl, (hwp _ _ .refl).1.2 x st hlast hst⟩

/-! ### The turn of every worker -/

/-- On the way from worker `i` to the turn of worker `k`. -/
def Stage.Between (i k : ℕ) : Stage → Prop
  | .turn j => i < j ∧ j ≤ k
  | .perform j => i < j ∧ j < k

/-- A worker after `i` and before `k` is asked whether it is due, or performs, and the
round goes on. -/
def GoesOn (i k : ℕ) : ServerEvent → Prop
  | .op (.checkToPerform j) _ => i < j ∧ j < k
  | .op (.doPerform j _) r => i < j ∧ j < k ∧ endsRound r = false
  | _ => False

/-- A worker after `i` and before `k` throws a connection exception or a fault. -/
def BreaksOff (i k : ℕ) : ServerEvent → Prop
  | .op (.doPerform j _) r => i < j ∧ j < k ∧ endsRound r = true
  | _ => False

/-- After event `e` the round goes on with the workers after `i`, until worker `k` is offered
its turn, one of the workers before it breaks off the round, or the run has not come further. -/
def TurnComes (c : ServerConfig) (e i k : ℕ) : Prop :=
  ∃ f, e < f ∧ (∀ t, e < t → t < f → ∃ y, c.trace[t]? = some y ∧ GoesOn i k y) ∧
    ((∃ due, c.trace[f]? = some (.op (.checkToPerform k) due)) ∨
      (∃ y, c.trace[f]? = some y ∧ BreaksOff i k y) ∨
      (f = c.trace.length ∧ ∃ o st, c.prog.next = some o ∧ o.stage = some st ∧ st.Between i k))

/-- The step: an event on the way is the turn itself, breaks off the round, or asks for
something else on the way. -/
theorem Stage.Between.event {st : Stage} {i k : ℕ} (h : st.Between i k) (hk : k < n) {o : Op}
    (ho : o.stage = some st) (r : Ret o) :
    o = .checkToPerform k ∨ BreaksOff i k (.op o r) ∨
      GoesOn i k (.op o r) ∧ ∃ st', awaited n (.op o r) = some st' ∧ st'.Between i k := by
  cases o with
  | checkToPerform j =>
      cases ho
      obtain ⟨hij, hjk⟩ := h
      rcases Nat.eq_or_lt_of_le hjk with rfl | hlt
      · exact Or.inl rfl
      refine Or.inr (Or.inr ⟨⟨hij, hlt⟩, ?_⟩)
      cases r with
      | true => exact ⟨.perform j, rfl, hij, hlt⟩
      | false => exact ⟨.turn (j + 1), if_pos (by omega), by omega, hlt⟩
  | doPerform j p =>
      cases ho
      obtain ⟨hij, hjk⟩ := h
      cases hends : endsRound r with
      | true => exact Or.inr (Or.inl ⟨hij, hjk, hends⟩)
      | false =>
          refine Or.inr (Or.inr ⟨⟨hij, hjk, hends⟩, .turn (j + 1), ?_, by omega, hjk⟩)
          rw [awaited, hends, if_neg Bool.false_ne_true, turnAfter, if_pos (by omega)]
  | _ => cases ho

/-- By induction on what is left of the trace. -/
theorem turnComes_of_awaited
    (h : Reachable system noJobs (ServerConfig.init n tries rounds sessions slamwarePltfm) c)
    {e i k : ℕ} {x : ServerEvent} {st : Stage} (hk : k < n) (hx : c.trace[e]? = some x)
    (hst : awaited n x = some st) (hbetween : st.Between i k) : TurnComes c e i k := by
  obtain ⟨left, hleft⟩ := Nat.exists_eq_add_of_lt (lt_length hx)
  induction left generalizing e x st with
  | zero =>
      have hend : e + 1 = c.trace.length := hleft.symm
      obtain ⟨o, hnext, ho⟩ := next_of_awaited h (getLast?_of_end hx hend) hst
      exact ⟨e + 1, Nat.lt_succ_self e, fun t h₁ h₂ => by omega,
        Or.inr (Or.inr ⟨hend, o, st, hnext, ho, hbetween⟩)⟩
  | succ left ih =>
      obtain ⟨o, r, hy, ho⟩ := (inTurn_run h).next e x st hx hst (by omega)
      rcases hbetween.event hk ho r with rfl | hbreaks | ⟨hgoes, st', hst', hbetween'⟩
      · exact ⟨e + 1, Nat.lt_succ_self e, fun t h₁ h₂ => by omega, Or.inl ⟨r, hy⟩⟩
      · exact ⟨e + 1, Nat.lt_succ_self e, fun t h₁ h₂ => by omega,
          Or.inr (Or.inl ⟨_, hy, hbreaks⟩)⟩
      · obtain ⟨f, hef, hall, hend⟩ := ih hy hst' hbetween' (by omega)
        refine ⟨f, by omega, fun t h₁ h₂ => ?_, hend⟩
        rcases Nat.eq_or_lt_of_le (Nat.succ_le_of_lt h₁) with rfl | hlt
        · exact ⟨_, hy, hgoes⟩
        · exact hall t hlt h₂

/-- In every run: every `doPerform` belongs to a session whose `reinitWorkLoop_`
has returned true for the platform it is given; if a worker has thrown a connection
exception before, then since then that platform was released, a new one connected,
every worker reset and `reinitWorkLoop_` has returned true; and after any other
exception of worker `i` every later worker of the round is offered its turn, unless a
worker before it throws a connection exception or a fault. -/
theorem session_safety
    (h : Reachable system noJobs (ServerConfig.init n tries rounds sessions slamwarePltfm) c) :
    (∀ (j i p : ℕ) (r : Except Exn Unit), c.trace[j]? = some (.op (.doPerform i p) r) →
      (∃ ret < j, c.trace[ret]? = some (reinitialized p) ∧
        ∀ t x, ret < t → t < j → c.trace[t]? = some x → ¬LeavesSession x) ∧
      ∀ (e : ℕ) (x : ServerEvent) (q : ℕ), e < j → c.trace[e]? = some x → Broke q x →
        ∃ rel con ret, e < rel ∧ rel < con ∧ con < ret ∧ ret < j ∧
          c.trace[rel]? = some (released q) ∧ c.trace[con]? = some (connected p) ∧
          (∀ k < n, ∃ t, con < t ∧ t < ret ∧ c.trace[t]? = some (hasReset k p)) ∧
          c.trace[ret]? = some (reinitialized p)) ∧
    ∀ e x i k, c.trace[e]? = some x → Swallowed i x → i < k → k < n → TurnComes c e i k := by
  have hturn := inTurn_run h
  constructor
  · intro j i p r hj
    obtain ⟨ret, hret, hnone, hbreak⟩ := hturn.ready j i p r hj
    have hat : ∀ {t x}, (c.trace.take j)[t]? = some x → t < j ∧ c.trace[t]? = some x := by
      intro t x ht
      rw [List.getElem?_take] at ht
      split_ifs at ht with hlt
      exact ⟨hlt, ht⟩
    have hin : ∀ {t x}, t < j → c.trace[t]? = some x → (c.trace.take j)[t]? = some x := by
      intro t x hlt ht
      rw [List.getElem?_take_of_lt hlt]
      exact ht
    refine ⟨⟨ret, (hat hret).1, (hat hret).2, fun t x hlt htj ht =>
      hnone t x hlt (hin htj ht)⟩, ?_⟩
    intro e x q hej he hbroke
    obtain ⟨con, hcon, ⟨rel, her, hrc, hrel, hconn⟩, hreset⟩ := hbreak e x q (hin hej he) hbroke
    refine ⟨rel, con, ret, her, hrc, hcon, (hat hret).1, (hat hrel).2, (hat hconn).2, ?_,
      (hat hret).2⟩
    intro k hk
    obtain ⟨t, ht₁, ht₂, ht⟩ := hreset k hk
    exact ⟨t, ht₁, ht₂, (hat ht).2⟩
  · intro e x i k he hsw hik hk
    exact turnComes_of_awaited h hk he (hsw.awaited (by omega)) ⟨Nat.lt_succ_self i, hik⟩

end Runs

/-! ## A lost connection -/

/-- Everything succeeds, except that platform 7 is lost when a worker performs; then
platform 8 answers, on which the operation of worker 0 fails. -/
def lossHandler : (o : Op) → State → Ret o × State
  | .shouldContinueRunning, s => (true, s)
  | .rclcppOk, s => (true, s)
  | .roughSleepWait, s => ((), s)
  | .sleepUntilNextTrigger, s => ((), s)
  | .getParameter _, s => (.ok (), s)
  | .safeIsSlamwarePlatformConnected, s => (s.isSome, s)
  | .connectSlamwarePlatform, s => (some 8, s)
  | .safeSetSlamwarePlatform pltfm, _ => ((), some pltfm)
  | .safeGetSlamwarePlatform, s => (s, s)
  | .safeReleaseSlamwarePlatform, s => (s, none)
  | .resetOnWorkLoopBegin _ _, s => (.ok (), s)
  | .isWorkLoopInitOk _, s => (false, s)
  | .reinitWorkLoop _ _, s => (.ok true, s)
  | .reinitWorkLoopDone _ _, s => ((), s)
  | .checkToPerform _, s => (true, s)
  | .doPerform i pltfm, s =>
      (if pltfm = 7 then .error .connectionLost
        else if i = 0 then .error .operationFail else .ok (), s)

theorem handle_lossHandler (s : State) (o : Op) :
    system.handle s o (lossHandler o s).1 (lossHandler o s).2 := by
  cases o <;> first | rfl | exact ⟨rfl, rfl⟩

def lossRun : ℕ → ServerConfig :=
  (ServerConfig.init 3 1 1 2 (some 7)).runOf lossHandler (fun j => j.elim) noJobs
    (List.replicate 52 .op)

/-- The second session of three workers, after the first one has lost platform 7: worker 2
performs on platform 8, and it had its turn although worker 0 had failed. -/
theorem session_safety_after_loss :
    (∃ rel con ret, 18 < rel ∧ rel < con ∧ con < ret ∧ ret < 50 ∧
      (lossRun 52).trace[rel]? = some (released 7) ∧
      (lossRun 52).trace[con]? = some (connected 8) ∧
      (lossRun 52).trace[ret]? = some (reinitialized 8)) ∧
    TurnComes (lossRun 52) 46 0 2 := by
  have hrun : IsRun system noJobs lossRun 52 :=
    isRun_runOf handle_lossHandler (fun _ a => a.elim) (by decide +kernel)
  obtain ⟨hperforms, hturns⟩ := session_safety (hrun.reachable le_rfl)
  have hbreak : (lossRun 52).trace[18]? = some (.op (.doPerform 0 7) (.error .connectionLost)) :=
    rfl
  have hperform : (lossRun 52).trace[50]? = some (.op (.doPerform 2 8) (.ok ())) := rfl
  have hfail : (lossRun 52).trace[46]? = some (.op (.doPerform 0 8) (.error .operationFail)) := rfl
  constructor
  · obtain ⟨rel, con, ret, h₁, h₂, h₃, h₄, hrel, hcon, -, hret⟩ :=
      (hperforms 50 2 8 (.ok ()) hperform).2 18 _ 7 (by decide) hbreak ⟨rfl, _, rfl, rfl⟩
    exact ⟨rel, con, ret, h₁, h₂, h₃, h₄, hrel, hcon, hret⟩
  · exact hturns 46 _ 0 2 hfail ⟨rfl, _, rfl, rfl, rfl⟩ (by decide) (by decide)

end Ros2WsDemo.PlatformSession

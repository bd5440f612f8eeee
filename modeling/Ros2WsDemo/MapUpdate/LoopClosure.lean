import Ros2WsDemo.Lib.Sequential
import Ros2WsDemo.MapUpdate.SyncRequest

/-!
# Requests of the work thread

Two workers request a sync from the thread that also performs it: the one that reads the
events of the robot, after a loop closure, and the map update itself.  Such a request cannot
fall into a sync, so the flag never forgets it, whatever other threads request meanwhile.
-/

namespace Ros2WsDemo.ServerExploreMapUpdateWorker

open Effect Trace

/-! ## Events of the robot -/

inductive InternalSystemEvent where
  | relocalizationFail | relocalizationSuccess | backHomeFail | alignMap | sideBrushStall
  | rollingBrushStall | bumperDown | wallIrDown | cliffDown | blowerStall | dustbinGone
  | motionJam | irDown | imuDown | mopDown | mopUp | setMapDone | setPoseDone | mapUpdateEnable
  | mapUpdateDisable | pathOccupied | trappedInForbiddenArea | isInElevatorArea
  | isOutOfElevatorArea | mapLoopClosure | enterElevatorFailed | searchElevatorPathFailed
  | cliffTriggered | searchLocalPathFailed | waitPlanningFailed | waitPlanningFoundNotGoodPath
  | powerOff | pathFinderFailed | takeElevatorOccupied | turningRoundInElevator
  | enterElevatorPathFound | narrowCorridor | currentPoseOccupied
  deriving DecidableEq

/-- The jobs of the work thread that request or perform a sync.  The events are those the
provider has given to the worker. -/
inductive LoopJob where
  | mapUpdate (j : Job)
  | readEvents (events : List InternalSystemEvent)

variable {F J : Type}

def requestSyncMap : Worker F Unit := perform (F := F) .requestSyncMap

/-- `ServerReadEventsWorker::doPerform`, after the events have been read. -/
def readEvents : List InternalSystemEvent → Worker F Unit
  | [] => return
  | event :: events =>
      if event = .mapLoopClosure then requestSyncMap else readEvents events

def loopJob [FloatArith F] : LoopJob → Worker F Unit
  | .mapUpdate j => job j
  | .readEvents events => readEvents events

abbrev LoopConfig (F : Type) := Config (Ret F) Act LoopJob (State F) Exn Unit

def LoopConfig.init [FloatArith F] : LoopConfig F := ⟨.ret (), State.init, []⟩

theorem readEvents_eq (events : List InternalSystemEvent) :
    (readEvents events : Worker F Unit) =
      if .mapLoopClosure ∈ events then requestSyncMap else return := by
  induction events with
  | nil => rfl
  | cons event events ih =>
      by_cases hevent : event = .mapLoopClosure
      · simp only [readEvents, hevent, List.mem_cons, true_or, if_true]
      · simp only [readEvents, ih, List.mem_cons, hevent, Ne.symm hevent, false_or, if_false]

/-! ## Answered requests -/

def IsOwnRequest (e : Event (Ret F) Act J) : Prop := ∃ r, e = .op .requestSyncMap r

def IsStart (e : Event (Ret F) Act J) : Prop := ∃ j, e = .start j

/-- A sync has loaded the flag at `l`, after the moment `t`, and has reset it at `u`. -/
structure AnsweredBy (tr : List (Event (Ret F) Act J)) (t l u : ℕ) : Prop where
  load : tr[l]? = some (.op .loadSyncMapRequested true)
  reset : ∃ r, tr[u]? = some (.op (.storeSyncMapRequested false) r)
  lt_load : t < l
  load_lt : l < u
  same : ∀ i e, l < i → i < u → tr[i]? = some e → ¬IsStart e

def Kept (s : State F) (tr : List (Event (Ret F) Act J)) (t : ℕ) : Prop :=
  s.syncMapRequested = true ∨ ∃ l u, AnsweredBy tr t l u

/-- The running job has found the flag set, and has requested nothing since. -/
def IsOwnMark (e : Event (Ret F) Act J) : Prop :=
  IsStart e ∨ IsOwnRequest e ∨ ∃ flag, e = .op .loadSyncMapRequested flag

def Syncing (tr : List (Event (Ret F) Act J)) : Prop :=
  Last IsOwnMark (fun e => e = .op .loadSyncMapRequested true) tr

section Trace

variable {s s' : State F} {tr tr' : List (Event (Ret F) Act J)} {e : Event (Ret F) Act J}
  {t l u : ℕ}

theorem AnsweredBy.snoc (h : AnsweredBy tr t l u) (e : Event (Ret F) Act J) :
    AnsweredBy (tr ++ [e]) t l u where
  load := getElem?_snoc_of h.load e
  reset := h.reset.imp fun _ hr => getElem?_snoc_of hr e
  lt_load := h.lt_load
  load_lt := h.load_lt
  same i x hl hu hx := by
    obtain ⟨r, hr⟩ := h.reset
    have hlen := lt_length hr
    rcases getElem?_snoc.mp hx with hx | ⟨hi, -⟩
    · exact h.same i x hl hu hx
    · omega

theorem Kept.snoc (h : Kept s tr t) (hs : s.syncMapRequested = true → s'.syncMapRequested = true)
    (e : Event (Ret F) Act J) : Kept s' (tr ++ [e]) t := by
  refine h.imp hs ?_
  rintro ⟨l, u, hanswered⟩
  exact ⟨l, u, hanswered.snoc e⟩

/-- Resetting the flag answers everything before the load. -/
theorem Syncing.answered (h : Syncing tr) (ht : tr[t]? = some e) (he : IsStart e ∨ IsOwnRequest e)
    {r : Ret F (.storeSyncMapRequested false)} :
    ∃ l, AnsweredBy (tr ++ [.op (.storeSyncMapRequested false) r]) t l tr.length := by
  obtain ⟨l, x, hx, -, rfl, hnone⟩ := h
  have hlen := lt_length hx
  refine ⟨l, getElem?_snoc_of hx _, ⟨r, getElem?_snoc.mpr (Or.inr ⟨rfl, rfl⟩)⟩, ?_, hlen, ?_⟩
  · by_contra hle
    rcases Nat.lt_or_ge l t with hlt | hge
    · exact hnone t e hlt ht (he.imp_right Or.inl)
    · obtain rfl : t = l := by omega
      cases hx.symm.trans ht
      rcases he with ⟨j, hj⟩ | ⟨r, hr⟩
      · cases hj
      · cases hr
  · intro i y hl hu hy hstart
    rw [List.getElem?_append_left hu] at hy
    exact hnone i y hl hy (Or.inl hstart)

theorem Syncing.snoc_op (h : Syncing tr) {o : Op F} {r : Ret F o}
    (hload : o ≠ .loadSyncMapRequested) (hrequest : o ≠ .requestSyncMap) :
    Syncing (tr ++ [.op o r]) := by
  refine Last.snoc h ?_
  rintro (⟨j, hj⟩ | ⟨r', hr⟩ | ⟨flag, hflag⟩)
  · cases hj
  · cases hr
    exact hrequest rfl
  · cases hflag
    exact hload rfl

theorem Syncing.snoc_act (h : Syncing tr) (a : Act) : Syncing (tr ++ [.act a]) := by
  refine Last.snoc h ?_
  rintro (⟨j, hj⟩ | ⟨r', hr⟩ | ⟨flag, hflag⟩)
  · cases hj
  · cases hr
  · cases hflag

end Trace

/-! ## What the jobs do -/

/-- Operations of a sync between the load and the reset of the flag. -/
def Syncs : Op F → Prop
  | .loadSyncMapRequested | .storeSyncMapRequested _ | .requestSyncMap => False
  | _ => True

/-- The flag is reset only by a job that has found it set and has requested nothing since. -/
def RequestGuard (_ : State F) (tr : List (Event (Ret F) Act J)) (o : Op F) : Prop :=
  o = .storeSyncMapRequested false → Syncing tr

section Jobs

variable [FloatArith F]

theorem syncs_updateMapInCellIdxRect (r : RectangleI) :
    (updateMapInCellIdxRect r : Worker F Bool).Uses Syncs := by
  apply Prog.Uses.bind (Prog.uses_perform (o := Op.readExploreMapHolder) trivial)
  intro (h : ServerMapHolder F)
  apply (Prog.uses_ofExcept _).bind
  intro area
  apply Prog.Uses.bind
  · apply Prog.Uses.tryCatch
    · exact (Prog.uses_perform (o := Op.getMap area) trivial).bind Prog.uses_ofExcept
    · intro e
      cases e <;> trivial
  intro hMap
  cases hMap with
  | none => exact Prog.uses_pure _
  | some m =>
      apply Prog.Uses.bind
      · apply Prog.Uses.bind (Prog.uses_perform (o := Op.readExploreMapHolder) trivial)
        intro (h : ServerMapHolder F)
        dsimp only
        split_ifs
        · exact Prog.uses_pure _
        · exact (Prog.uses_perform (o := Op.writeShouldReinitMap true) trivial).bind fun _ =>
            Prog.uses_pure _
      intro ok
      split_ifs
      · exact Prog.uses_pure _
      · exact ((Prog.uses_perform (o := Op.callExploreMapHolder _) trivial).bind
          Prog.uses_ofExcept).bind fun _ => Prog.uses_pure _

theorem syncs_fetchTiles (rs : List RectangleI) :
    (fetchTiles rs : Worker F Bool).Uses Syncs := by
  induction rs with
  | nil => exact Prog.uses_pure _
  | cons r rs ih =>
      apply (syncs_updateMapInCellIdxRect r).bind
      intro ok
      split_ifs
      · exact Prog.uses_pure _
      · exact ih

theorem syncs_syncWholeMap : (syncWholeMap : Worker F Bool).Uses Syncs := by
  apply Prog.Uses.bind (Prog.uses_perform (o := Op.getParameter _) trivial)
  intro (fVal : F)
  apply Prog.Uses.bind (Prog.uses_perform (o := Op.readExploreMapHolder) trivial)
  intro (h : ServerMapHolder F)
  apply (Prog.uses_ofExcept _).bind
  intro _
  apply ((Prog.uses_perform (o := Op.getKnownArea) trivial).bind Prog.uses_ofExcept).bind
  intro knownArea
  apply Prog.Uses.bind (Prog.uses_perform (o := Op.readExploreMapHolder) trivial)
  intro (h : ServerMapHolder F)
  apply (Prog.uses_ofExcept _).bind
  intro known
  split_ifs
  · exact Prog.uses_pure _
  apply ((Prog.uses_perform (o := Op.callExploreMapHolder _) trivial).bind
    Prog.uses_ofExcept).bind
  intro _
  apply ((Prog.uses_perform (o := Op.callExploreMapHolder _) trivial).bind
    Prog.uses_ofExcept).bind
  intro _
  rw [syncRows_eq_fetchTiles]
  exact syncs_fetchTiles _

variable {answers : (o : Op F) → Ret F o → Prop} {s : State F}
  {tr : List (Event (Ret F) Act J)} {α : Type}

/-- A program that never resets the flag meets the guard. -/
theorem wp_noFlagReset {p : Worker F α} (hp : p.Uses fun o => o ≠ .storeSyncMapRequested false) :
    wp (system answers) RequestGuard (fun _ _ _ => True) (fun _ _ _ => True) p s tr :=
  wp_of_uses hp (fun _ _ _ _ h _ => h) trivial (fun _ _ _ ho _ he => absurd he ho)
    fun _ _ _ _ _ _ h _ => h

theorem wp_syncWholeMap_syncing (h : Syncing tr) :
    wp (system answers) RequestGuard (fun _ _ tr => Syncing tr) (fun _ _ _ => True)
      syncWholeMap s tr := by
  refine wp_mono (wp_of_uses (P := fun _ tr => Syncing tr) syncs_syncWholeMap ?_ h ?_ ?_)
    (fun _ _ _ h => h) fun _ _ _ _ => trivial
  · exact fun s tr a s' h _ => h.snoc_act a
  · exact fun s tr o _ h _ => h
  · intro s tr o r s' ho h _
    refine h.snoc_op ?_ ?_
    · rintro rfl
      exact ho
    · rintro rfl
      exact ho

theorem wp_doPerform_requestGuard :
    wp (system answers) RequestGuard (fun _ _ _ => True) (fun _ _ _ => True) doPerform s tr := by
  apply wp_seq (wp_noFlagReset uses_checkToReinitMap)
  intro ok s tr _
  split_ifs
  · trivial
  apply wp_seq (R := fun (flag : Bool) _ tr => flag = true → Syncing tr)
  · refine wp_perform (P := fun _ _ => True) (fun _ _ _ _ h _ => h) trivial
      (fun _ _ _ h => nomatch h) ?_
    rintro s tr flag s' _ - rfl
    exact last_snoc tr (Or.inr (Or.inr ⟨true, rfl⟩)) rfl
  intro syncMapRequested s tr h
  split_ifs with hsync
  · apply wp_seq (wp_syncWholeMap_syncing (h hsync))
    intro done s tr h
    split_ifs
    · apply wp_seq (R := fun _ _ _ => True)
      · exact wp_perform (P := fun _ tr => Syncing tr) (fun _ _ a _ h _ => h.snoc_act a) h
          (fun _ _ h _ => h) fun _ _ _ _ _ _ => trivial
      · exact fun _ _ _ _ => trivial
    · trivial
  · apply wp_seq (wp_noFlagReset (uses_updateMapNearRobot.mono fun _ => Quiet.noFlagReset))
    exact fun _ _ _ _ => trivial

theorem wp_loopJob_requestGuard (j : LoopJob) :
    wp (system answers) RequestGuard (fun _ _ _ => True) (fun _ _ _ => True) (loopJob j) s tr := by
  cases j with
  | mapUpdate j =>
      cases j with
      | doPerform => exact wp_doPerform_requestGuard
      | reinitWorkLoop =>
          apply wp_noFlagReset
          exact ⟨nofun, fun _ => ⟨nofun, fun _ => ⟨nofun, fun _ => ⟨nofun, fun _ => trivial⟩⟩⟩⟩
  | readEvents events =>
      simp only [loopJob, readEvents_eq]
      split_ifs
      · exact wp_noFlagReset (Prog.uses_perform (o := Op.requestSyncMap) nofun)
      · trivial

end Jobs

/-! ## Loop closures -/

/-- The worker has been given a loop closure. -/
def IsClosure (e : Event (Ret F) Act LoopJob) : Prop :=
  ∃ events, .mapLoopClosure ∈ events ∧ e = .start (.readEvents events)

/-- The work thread has done something. -/
def IsStep (e : Event (Ret F) Act J) : Prop := ∀ a, e ≠ .act a

/-- A loop closure after which the work thread has done nothing yet. -/
def Fresh (tr : List (Event (Ret F) Act LoopJob)) (t : ℕ) : Prop :=
  (∃ e, tr[t]? = some e ∧ IsClosure e) ∧ NoneAfter IsStep tr t

/-- A fresh loop closure is requested next. -/
def ClosureGuard (_ : State F) (tr : List (Event (Ret F) Act LoopJob)) (o : Op F) : Prop :=
  ∀ t, Fresh tr t → o = .requestSyncMap

section Closures

variable {tr : List (Event (Ret F) Act LoopJob)} {e : Event (Ret F) Act LoopJob} {t : ℕ}

theorem Fresh.of_snoc (h : Fresh (tr ++ [e]) t) (he : ¬IsClosure e) : Fresh tr t ∧ ¬IsStep e := by
  obtain ⟨⟨x, hx, hclosure⟩, hnone⟩ := h
  rcases getElem?_snoc.mp hx with hx | ⟨-, rfl⟩
  · obtain ⟨hnone, hstep⟩ := hnone.of_snoc (lt_length hx)
    exact ⟨⟨⟨x, hx, hclosure⟩, hnone⟩, hstep⟩
  · exact absurd hclosure he

theorem not_fresh_act (h : ∀ t, ¬Fresh tr t) (a : Act) (t : ℕ) : ¬Fresh (tr ++ [.act a]) t :=
  fun ht => h t (ht.of_snoc fun ⟨_, _, he⟩ => nomatch he).1

theorem not_fresh_op (o : Op F) (r : Ret F o) (t : ℕ) : ¬Fresh (tr ++ [.op o r]) t :=
  fun ht => (ht.of_snoc fun ⟨_, _, he⟩ => nomatch he).2 nofun

theorem not_fresh_start {j : LoopJob} (hj : ∀ events, .mapLoopClosure ∈ events →
      j ≠ .readEvents events) (t : ℕ) : ¬Fresh (tr ++ [.start j]) t := by
  refine fun ht => (ht.of_snoc ?_).2 nofun
  rintro ⟨events, hclosure, he⟩
  exact hj events hclosure (Event.start.inj he)

variable [FloatArith F] {answers : (o : Op F) → Ret F o → Prop} {s : State F}

theorem wp_not_fresh {α : Type} (p : Worker F α) (h : ∀ t, ¬Fresh tr t) :
    wp (system answers) ClosureGuard (fun _ _ tr => ∀ t, ¬Fresh tr t)
      (fun _ _ tr => ∀ t, ¬Fresh tr t) p s tr := by
  have hall : p.Uses fun _ => True := by
    induction p with
    | ret a => trivial
    | throw e => trivial
    | call o k ih => exact ⟨trivial, fun r => ih r⟩
  refine wp_of_uses (P := fun _ tr => ∀ t, ¬Fresh tr t) hall ?_ h ?_ ?_
  · exact fun s tr a s' h _ t => not_fresh_act h a t
  · exact fun s tr o _ h t ht => absurd ht (h t)
  · exact fun s tr o r s' _ _ _ t => not_fresh_op o r t

theorem wp_loopJob_closureGuard (j : LoopJob) :
    wp (system answers) ClosureGuard (fun _ _ tr => ∀ t, ¬Fresh tr t)
      (fun _ _ tr => ∀ t, ¬Fresh tr t) (loopJob j) s (tr ++ [.start j]) := by
  cases j with
  | mapUpdate j => exact wp_not_fresh _ (not_fresh_start nofun)
  | readEvents events =>
      simp only [loopJob, readEvents_eq]
      split_ifs with hclosure
      · refine wp_perform (P := fun _ _ => True) (fun _ _ _ _ h _ => h) trivial
          (fun _ _ _ _ _ => rfl) ?_
        exact fun s tr r s' _ _ t => not_fresh_op _ r t
      · refine not_fresh_start ?_
        rintro events' hclosure' ⟨rfl⟩
        exact hclosure hclosure'

end Closures

/-! ## Runs -/

section Runs

variable [FloatArith F] {answers : (o : Op F) → Ret F o → Prop} {c : LoopConfig F}

theorem requestGuard_reachable (h : Reachable (system answers) loopJob LoopConfig.init c)
    {o : Op F} {k : Ret F o → Worker F Unit} (hc : c.prog = .call o k) :
    RequestGuard c.state c.trace o := by
  have hwp : wp (system answers) RequestGuard (fun _ _ _ => True) (fun _ _ _ => True) c.prog
      c.state c.trace := by
    refine wp_reachable (fun _ _ _ _ _ h _ => h) (fun _ _ _ _ _ h _ => h)
      (fun j s tr _ => wp_loopJob_requestGuard j) ?_ h
    trivial
  rw [hc] at hwp
  exact (hwp _ _ .refl).1

theorem closureGuard_reachable (h : Reachable (system answers) loopJob LoopConfig.init c) :
    wp (system answers) ClosureGuard (fun _ _ tr => ∀ t, ¬Fresh tr t)
      (fun _ _ tr => ∀ t, ¬Fresh tr t) c.prog c.state c.trace := by
  have hstable : Stable (system answers) fun _ tr => ∀ t, ¬Fresh (F := F) tr t :=
    fun s tr a s' h _ t => not_fresh_act h a t
  refine wp_reachable (fun _ => hstable) (fun _ => hstable)
    (fun j s tr _ => wp_loopJob_closureGuard j) ?_ h
  rintro t ⟨⟨e, he, -⟩, -⟩
  cases he

/-- Requests are kept, and a loop closure is kept or is requested next. -/
def LoopInv (s : State F) (tr : List (Event (Ret F) Act LoopJob)) : Prop :=
  ∀ t e, tr[t]? = some e →
    (IsOwnRequest e → Kept s tr t) ∧ (IsClosure e → Kept s tr t ∨ Fresh tr t)

theorem loopInv_op {s s' : State F} {tr : List (Event (Ret F) Act LoopJob)} {o : Op F}
    {r : Ret F o} (h : LoopInv s tr) (hguard : RequestGuard s tr o) (hclosure : ClosureGuard s tr o)
    (hr : (system answers).handle s o r s') : LoopInv s' (tr ++ [.op o r]) := by
  have hflag := (handle_flags hr).1
  -- with the flag up nothing is lost
  by_cases hup : s'.syncMapRequested = true
  · exact fun t e _ => ⟨fun _ => Or.inl hup, fun _ => Or.inl (Or.inl hup)⟩
  have hrequest : o ≠ .requestSyncMap := by
    rintro rfl
    exact hup hflag
  have hkept : ∀ t e, tr[t]? = some e → IsStart e ∨ IsOwnRequest e → Kept s tr t →
      Kept s' (tr ++ [.op o r]) t := by
    intro t e he hkind hkept
    cases o with
    | storeSyncMapRequested b =>
        cases b with
        | true => exact absurd hflag hup
        | false =>
            obtain ⟨l, hanswered⟩ := (hguard rfl).answered he hkind
            exact Or.inr ⟨l, _, hanswered⟩
    | requestSyncMap => exact absurd rfl hrequest
    | _ => exact hkept.snoc (fun h => hflag.trans h) _
  intro t e he
  rcases getElem?_snoc.mp he with he | ⟨-, rfl⟩
  · obtain ⟨hown, hclosed⟩ := h t e he
    refine ⟨fun hreq => hkept t e he (Or.inr hreq) (hown hreq), fun hclosure' => ?_⟩
    rcases hclosed hclosure' with hk | hfresh
    · obtain ⟨events, -, rfl⟩ := hclosure'
      exact Or.inl (hkept t _ he (Or.inl ⟨_, rfl⟩) hk)
    · exact absurd (hclosure t hfresh) hrequest
  · refine ⟨?_, fun ⟨_, _, he⟩ => nomatch he⟩
    rintro ⟨r', hr'⟩
    cases hr'
    exact absurd rfl hrequest

/-- When the work thread is idle, no loop closure is fresh. -/
theorem not_fresh_of_done (h : Reachable (system answers) loopJob LoopConfig.init c)
    (hdone : c.prog.Done) (t : ℕ) : ¬Fresh c.trace t := by
  have hwp := closureGuard_reachable h
  obtain ⟨p, s, tr⟩ := c
  cases p with
  | ret a => exact hwp t
  | throw e => exact hwp t
  | call o k => exact hdone.elim

theorem loopInv_reachable (h : Reachable (system answers) loopJob LoopConfig.init c) :
    LoopInv c.state c.trace := by
  induction h with
  | refl => exact fun t e he => nomatch he
  | @tail c c' hreach hstep ih =>
      cases hstep with
      | op hr =>
          have hwp := closureGuard_reachable hreach
          exact loopInv_op ih (requestGuard_reachable hreach rfl) (hwp _ _ .refl).1 hr
      | @act p s s' tr a hact =>
          have hup : s'.syncMapRequested = true := by rw [show s' = _ from hact]
          exact fun t e _ => ⟨fun _ => Or.inl hup, fun _ => Or.inl (Or.inl hup)⟩
      | @start p s tr j hdone =>
          intro t e he
          rcases getElem?_snoc.mp he with he | ⟨rfl, rfl⟩
          · obtain ⟨hown, hclosed⟩ := ih t e he
            refine ⟨fun hreq => (hown hreq).snoc id _, fun hclosure => Or.inl ?_⟩
            exact ((hclosed hclosure).resolve_right (not_fresh_of_done hreach hdone t)).snoc id _
          · refine ⟨nofun, fun hclosure => Or.inr ⟨⟨_, he, hclosure⟩, ?_⟩⟩
            exact noneAfter_length _ _ _

/-- Whatever other threads request, every request of the work thread still shows in the flag,
or a sync that loaded the flag after it has reset it.  When the thread is idle, this holds of
every loop closure it has been given. -/
theorem own_requests_kept (h : Reachable (system answers) loopJob LoopConfig.init c) :
    (∀ t r, c.trace[t]? = some (.op .requestSyncMap r) →
      c.state.syncMapRequested = true ∨ ∃ l u, AnsweredBy c.trace t l u) ∧
    (c.prog.Done → ∀ t events, c.trace[t]? = some (.start (.readEvents events)) →
      .mapLoopClosure ∈ events →
      c.state.syncMapRequested = true ∨ ∃ l u, AnsweredBy c.trace t l u) := by
  have hinv := loopInv_reachable h
  refine ⟨fun t r ht => (hinv t _ ht).1 ⟨r, rfl⟩, fun hdone t events ht hclosure => ?_⟩
  exact ((hinv t _ ht).2 ⟨events, hclosure, rfl⟩).resolve_right (not_fresh_of_done h hdone t)

end Runs

def givenClosure (c : LoopConfig F) (t : ℕ) : Bool :=
  match c.trace[t]? with
  | some (.start (.readEvents events)) => .mapLoopClosure ∈ events
  | _ => false

theorem exists_of_givenClosure {c : LoopConfig F} {t : ℕ} (h : givenClosure c t = true) :
    ∃ events, c.trace[t]? = some (.start (.readEvents events)) ∧ .mapLoopClosure ∈ events := by
  rw [givenClosure] at h
  split at h
  · exact ⟨_, ‹_›, of_decide_eq_true h⟩
  · cases h

/-- A sync, a loop closure, and the sync that answers it. -/
def closureBetweenSyncs : List (Move Act LoopJob) :=
  .start (.mapUpdate .doPerform) :: List.replicate 21 .op ++
    .start (.readEvents [.bumperDown, .mapLoopClosure]) :: .op ::
      .start (.mapUpdate .doPerform) :: List.replicate 17 .op

def closureRun : ℕ → LoopConfig ℚ :=
  LoopConfig.init.runOf (handler fixedAnswer) (fun _ => action) loopJob closureBetweenSyncs

theorem own_requests_kept_closure :
    ∃ c : LoopConfig ℚ, c.state.syncMapRequested = false ∧
      ∃ l u, AnsweredBy c.trace 22 l u := by
  have hrun : IsRun (system fun _ _ => True) loopJob closureRun 42 :=
    isRun_runOf (handle_handler fun _ => trivial) (fun _ _ => rfl) (by decide +kernel)
  have hdone : (closureRun 42).prog.result = some () := by decide +kernel
  have hflag : (closureRun 42).state.syncMapRequested = false := by decide +kernel
  have hgiven : givenClosure (closureRun 42) 22 = true := by decide +kernel
  have hreach := hrun.reachable (i := 42) le_rfl
  rw [show closureRun 0 = LoopConfig.init from rfl] at hreach
  generalize closureRun 42 = c at hreach hdone hflag hgiven
  obtain ⟨events, hstart, hclosure⟩ := exists_of_givenClosure hgiven
  have hidle : c.prog.Done := by
    rw [Prog.eq_ret_of_result hdone]
    trivial
  rcases (own_requests_kept hreach).2 hidle 22 events hstart hclosure with hup | hanswered
  · rw [hflag] at hup
    cases hup
  · exact ⟨c, hflag, hanswered⟩

end Ros2WsDemo.ServerExploreMapUpdateWorker

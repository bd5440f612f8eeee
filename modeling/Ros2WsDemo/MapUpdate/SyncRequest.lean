import Ros2WsDemo.Lib.Trace
import Ros2WsDemo.MapUpdate.Tiling

/-!
# Requests for a map sync

A request sets a flag which the worker loads at the beginning of a sync and
resets at its end.  The reset cannot tell which requests it answers.
-/

namespace Ros2WsDemo.ServerExploreMapUpdateWorker

open Effect ServerMapHolder Trace

variable {F : Type}

/-! ## Events -/

inductive EventKind where
  | load (flag : Bool)
  | fetch
  | flagReset
  | request
  | holderReset
  | start
  | other
  deriving DecidableEq

def kind : WorkerEvent F → EventKind
  | .op .loadSyncMapRequested (flag : Bool) => .load flag
  | .op (.getMap _) _ => .fetch
  | .op (.storeSyncMapRequested false) _ => .flagReset
  | .op .requestSyncMap _ => .request
  | .op (.callExploreMapHolder call) (r : Except Exn Unit) =>
      if call.isReset && r.isOk then .holderReset else .other
  | .op _ _ => .other
  | .act .requestSyncMap => .request
  | .start _ => .start

def IsLoad (flag : Bool) (e : WorkerEvent F) : Prop := kind e = .load flag

def IsFetch (e : WorkerEvent F) : Prop := kind e = .fetch

def IsFlagReset (e : WorkerEvent F) : Prop := kind e = .flagReset

def IsRequest (e : WorkerEvent F) : Prop := kind e = .request

/-- The events that delimit what a job does after it has loaded the flag. -/
def IsMark (e : WorkerEvent F) : Prop := kind e = .start ∨ ∃ flag, IsLoad flag e

theorem kind_callHolder (call : HolderCall F) (r : Except Exn Unit) :
    kind (.op (.callExploreMapHolder call) r) = .holderReset ∨
      kind (.op (.callExploreMapHolder call) r) = .other := by
  simp only [kind]
  split_ifs
  · exact Or.inl rfl
  · exact Or.inr rfl

theorem isRequest_op {o : Op F} {r : Ret F o} (h : IsRequest (.op o r)) :
    o = .requestSyncMap := by
  cases o with
  | requestSyncMap => rfl
  | callExploreMapHolder call =>
      rcases kind_callHolder call r with hk | hk <;> cases hk.symm.trans h
  | storeSyncMapRequested b => cases b <;> cases h
  | _ => cases h

theorem isFlagReset_op {o : Op F} {r : Ret F o} (h : IsFlagReset (.op o r)) :
    o = .storeSyncMapRequested false := by
  cases o with
  | callExploreMapHolder call =>
      rcases kind_callHolder call r with hk | hk <;> cases hk.symm.trans h
  | storeSyncMapRequested b =>
      cases b with
      | false => rfl
      | true => cases h
  | _ => cases h

theorem isMark_op {o : Op F} {r : Ret F o} (h : IsMark (.op o r)) :
    o = .loadSyncMapRequested := by
  cases o with
  | loadSyncMapRequested => rfl
  | callExploreMapHolder call =>
      rcases kind_callHolder call r with hk | hk <;>
        rcases h with h | ⟨flag, h⟩ <;> cases hk.symm.trans h
  | storeSyncMapRequested b => cases b <;> rcases h with h | ⟨flag, h⟩ <;> cases h
  | _ => rcases h with h | ⟨flag, h⟩ <;> cases h

theorem not_isMark_act (a : Act) : ¬IsMark (.act a : WorkerEvent F) := by
  rintro (h | ⟨flag, h⟩) <;> cases h

/-- A whole-map sync that has completed successfully: it loaded the flag at `l`,
fetched its first tile at `f` and reset the flag at `u`. -/
structure CompletedSync (tr : List (WorkerEvent F)) (l f u : ℕ) : Prop where
  load : ∃ e, tr[l]? = some e ∧ IsLoad true e
  fetch : ∃ e, tr[f]? = some e ∧ IsFetch e
  reset : ∃ e, tr[u]? = some e ∧ IsFlagReset e
  load_lt : l < f
  fetch_lt : f < u
  first : ∀ i e, l < i → i < f → tr[i]? = some e → ¬IsFetch e
  same : ∀ i e, l < i → i < u → tr[i]? = some e → ¬IsMark e

/-- Every request still shows in the flag unless a sync that began after it has
completed. -/
def RequestsKept (s : State F) (tr : List (WorkerEvent F)) : Prop :=
  ∀ t e, tr[t]? = some e → IsRequest e →
    s.syncMapRequested = true ∨ ∃ l f u, CompletedSync tr l f u ∧ t < f

/-- No request falls between the first fetch of a sync that succeeds and the
reset of the flag. -/
def NoRequestDuringSync (tr : List (WorkerEvent F)) : Prop :=
  ∀ l f u, CompletedSync tr l f u → ∀ t e, tr[t]? = some e → IsRequest e → ¬(f < t ∧ t < u)

theorem CompletedSync.of_prefix {tr tr' : List (WorkerEvent F)} (hpre : tr <+: tr') {l f u : ℕ}
    (h : CompletedSync tr l f u) : CompletedSync tr' l f u := by
  have hu : u < tr.length := by
    obtain ⟨e, he, -⟩ := h.reset
    exact lt_length he
  have hkeep : ∀ i, i < tr.length → tr'[i]? = tr[i]? := fun i hi => getElem?_eq_of_isPrefix hpre hi
  have hlf := h.load_lt
  have hfu := h.fetch_lt
  refine ⟨?_, ?_, ?_, hlf, hfu, ?_, ?_⟩
  · rw [hkeep l (by omega)]
    exact h.load
  · rw [hkeep f (by omega)]
    exact h.fetch
  · rw [hkeep u hu]
    exact h.reset
  · intro i e hi hif he
    rw [hkeep i (by omega)] at he
    exact h.first i e hi hif he
  · intro i e hi hiu he
    rw [hkeep i (by omega)] at he
    exact h.same i e hi hiu he

/-- Completed syncs follow each other. -/
theorem CompletedSync.fetch_le {tr : List (WorkerEvent F)} {l f u l' f' u' : ℕ}
    (h : CompletedSync tr l f u) (h' : CompletedSync tr l' f' u') (hu : u' ≤ u) : f' ≤ f := by
  by_contra hf
  obtain ⟨e, he, hload⟩ := h.load
  obtain ⟨e', he', hload'⟩ := h'.load
  have hlf := h.load_lt
  have hlf' := h'.load_lt
  have hfu' := h'.fetch_lt
  rcases lt_trichotomy l l' with hlt | rfl | hlt
  · exact h.same l' e' hlt (by omega) he' (Or.inr ⟨true, hload'⟩)
  · obtain ⟨x, hx, hfetch⟩ := h.fetch
    exact h'.first f x hlf (by omega) hx hfetch
  · exact h'.same l e hlt (by omega) he (Or.inr ⟨true, hload⟩)

theorem NoRequestDuringSync.of_prefix {tr tr' : List (WorkerEvent F)} (hpre : tr <+: tr')
    (h : NoRequestDuringSync tr') : NoRequestDuringSync tr := by
  intro l f u hsync t e he hreq
  refine h l f u (hsync.of_prefix hpre) t e ?_ hreq
  rw [getElem?_eq_of_isPrefix hpre (lt_length he)]
  exact he

/-! ## What the worker does before it resets the flag -/

/-- The running job has found the flag set. -/
def SyncStarted (tr : List (WorkerEvent F)) : Prop := Last IsMark (IsLoad true) tr

/-- ... and has asked for a tile since. -/
def SyncFetched (tr : List (WorkerEvent F)) : Prop :=
  ∃ l f, (∃ e, tr[l]? = some e ∧ IsLoad true e) ∧ (∃ e, tr[f]? = some e ∧ IsFetch e) ∧ l < f ∧
    NoneAfter IsMark tr l

theorem SyncStarted.fetch {tr : List (WorkerEvent F)} (h : SyncStarted tr) {e : WorkerEvent F}
    (he : IsFetch e) (hmark : ¬IsMark e) : SyncFetched (tr ++ [e]) := by
  obtain ⟨l, x, hx, -, hload, hnone⟩ := h
  exact ⟨l, tr.length, ⟨x, getElem?_snoc_of hx e, hload⟩,
    ⟨e, getElem?_snoc.mpr (Or.inr ⟨rfl, rfl⟩), he⟩, lt_length hx, hnone.snoc hmark⟩

theorem SyncFetched.snoc {tr : List (WorkerEvent F)} (h : SyncFetched tr) {e : WorkerEvent F}
    (he : ¬IsMark e) : SyncFetched (tr ++ [e]) := by
  obtain ⟨l, f, ⟨x, hx, hload⟩, ⟨y, hy, hfetch⟩, hlf, hnone⟩ := h
  exact ⟨l, f, ⟨x, getElem?_snoc_of hx e, hload⟩, ⟨y, getElem?_snoc_of hy e, hfetch⟩, hlf,
    hnone.snoc he⟩

theorem SyncFetched.completed {tr : List (WorkerEvent F)} (h : SyncFetched tr) {e : WorkerEvent F}
    (he : IsFlagReset e) : ∃ l f, CompletedSync (tr ++ [e]) l f tr.length := by
  obtain ⟨l, f, ⟨x, hx, hload⟩, ⟨y, hy, hfetch⟩, hlf, hnone⟩ := h
  obtain ⟨f', z, hlf', hz, hfetch', hfirst⟩ := exists_first hlf hy hfetch
  have hf' := lt_length hz
  refine ⟨l, f', ⟨x, getElem?_snoc_of hx e, hload⟩, ⟨z, getElem?_snoc_of hz e, hfetch'⟩,
    ⟨e, getElem?_snoc.mpr (Or.inr ⟨rfl, rfl⟩), he⟩, hlf', hf', ?_, ?_⟩
  · intro i w hi hif hw
    rw [List.getElem?_append_left (by omega)] at hw
    exact hfirst i w hi hif hw
  · intro i w hi hiu hw
    rw [List.getElem?_append_left hiu] at hw
    exact hnone i w hi hw

/-- An event that neither is a request nor resets the flag. -/
theorem RequestsKept.snoc {s s' : State F} {tr : List (WorkerEvent F)} {e : WorkerEvent F}
    (h : RequestsKept s tr) (hs : s.syncMapRequested = true → s'.syncMapRequested = true)
    (he : ¬IsRequest e) : RequestsKept s' (tr ++ [e]) := by
  intro t x hx hreq
  rcases getElem?_snoc.mp hx with hx | ⟨-, rfl⟩
  · refine (h t x hx hreq).imp hs ?_
    rintro ⟨l, f, u, hsync, hlt⟩
    exact ⟨l, f, u, hsync.of_prefix (List.prefix_append _ _), hlt⟩
  · exact absurd hreq he

/-- Resetting the flag answers every request made before the first fetch. -/
theorem requestsKept_reset {s : State F} {tr : List (WorkerEvent F)} {e : WorkerEvent F}
    (he : IsFlagReset e) (hfetched : SyncFetched tr) (hno : NoRequestDuringSync (tr ++ [e])) :
    RequestsKept s (tr ++ [e]) := by
  obtain ⟨l, f, hsync⟩ := hfetched.completed he
  intro t x hx hreq
  refine Or.inr ⟨l, f, tr.length, hsync, ?_⟩
  have hnot := hno l f tr.length hsync t x hx hreq
  rcases getElem?_snoc.mp hx with hx' | ⟨-, rfl⟩
  · have ht := lt_length hx'
    obtain ⟨y, hy, hfetch⟩ := hsync.fetch
    have hne : t ≠ f := by
      rintro rfl
      rw [hx] at hy
      cases hy
      exact absurd (hreq.symm.trans hfetch) nofun
    omega
  · exact absurd (hreq.symm.trans he) nofun

/-- The flag is reset only by a job that has loaded it and fetched a tile since. -/
def ResetGuard (_ : State F) (tr : List (WorkerEvent F)) (o : Op F) : Prop :=
  o = .storeSyncMapRequested false → SyncFetched tr

/-- Operations which neither load nor store the flag. -/
def Quiet : Op F → Prop
  | .loadSyncMapRequested => False
  | .storeSyncMapRequested _ => False
  | _ => True

theorem Quiet.not_isMark {o : Op F} (ho : Quiet o) (r : Ret F o) :
    ¬IsMark (.op o r : WorkerEvent F) := by
  intro h
  rw [isMark_op h] at ho
  exact ho

theorem Quiet.resetGuard {o : Op F} (ho : Quiet o) (s : State F) (tr : List (WorkerEvent F)) :
    ResetGuard s tr o := by
  rintro rfl
  exact ho.elim

theorem Quiet.noFlagReset {o : Op F} (ho : Quiet o) : o ≠ .storeSyncMapRequested false := by
  rintro rfl
  exact ho

/-! ### Footprints -/

theorem uses_readExploreMapHolder : (readExploreMapHolder : Worker F _).Uses Quiet :=
  Prog.uses_perform (o := Op.readExploreMapHolder) trivial

theorem uses_getParameter (name : String) : (getParameter name : Worker F F).Uses Quiet :=
  Prog.uses_perform (o := Op.getParameter name) trivial

theorem uses_getKnownArea : (getKnownArea : Worker F _).Uses Quiet :=
  Prog.Uses.bind (Prog.uses_perform (o := Op.getKnownArea) trivial) Prog.uses_ofExcept

theorem uses_callHolder (call : HolderCall F) : (callHolder call).Uses Quiet :=
  (Prog.uses_perform trivial).bind Prog.uses_ofExcept

theorem uses_getMapByPltfm (area : RectangleF F) : (getMapByPltfm area).Uses Quiet := by
  apply Prog.Uses.tryCatch
  · exact (Prog.uses_perform trivial).bind Prog.uses_ofExcept
  · intro e
    cases e <;> trivial

variable [FloatArith F]

theorem uses_checkRecvResolution (recvResolution : F) :
    (checkRecvResolution recvResolution).Uses Quiet := by
  apply Prog.Uses.bind (Prog.uses_perform trivial)
  intro h
  dsimp only
  split_ifs
  · exact Prog.uses_pure _
  · exact (Prog.uses_perform trivial).bind fun _ => Prog.uses_pure _

theorem uses_writeMap (hMap : MapData F) :
    Prog.Uses Quiet (do
      if !(← checkRecvResolution hMap.mapResolution.1) then
        return false
      callHolder (.setMapDataOfMap (some hMap))
      return true : Worker F Bool) := by
  apply (uses_checkRecvResolution _).bind
  intro ok
  split_ifs
  · exact Prog.uses_pure _
  · exact (uses_callHolder _).bind fun _ => Prog.uses_pure _

theorem uses_updateMapInCellIdxRect (r : RectangleI) :
    (updateMapInCellIdxRect r : Worker F Bool).Uses Quiet := by
  apply Prog.Uses.bind (Prog.uses_perform trivial)
  intro h
  apply (Prog.uses_ofExcept _).bind
  intro area
  apply (uses_getMapByPltfm area).bind
  intro hMap
  cases hMap with
  | none => exact Prog.uses_pure _
  | some hMap => exact uses_writeMap hMap

theorem uses_fetchTiles (rs : List RectangleI) : (fetchTiles rs : Worker F Bool).Uses Quiet := by
  induction rs with
  | nil => exact Prog.uses_pure _
  | cons r rs ih =>
      apply (uses_updateMapInCellIdxRect r).bind
      intro ok
      split_ifs
      · exact Prog.uses_pure _
      · exact ih

theorem uses_updateMapNearRobot : (updateMapNearRobot : Worker F Bool).Uses Quiet := by
  apply Prog.Uses.bind (Prog.uses_perform trivial)
  intro fVal
  apply Prog.Uses.bind (Prog.uses_perform trivial)
  intro robotPose
  apply Prog.Uses.bind (Prog.uses_perform trivial)
  intro h
  apply (Prog.uses_ofExcept _).bind
  intro nearRobotIdxRect
  apply ((Prog.uses_perform trivial).bind Prog.uses_ofExcept).bind
  intro knownArea
  apply (Prog.uses_ofExcept _).bind
  intro knownCellIdxRect
  dsimp only
  split_ifs
  · exact (Prog.uses_perform trivial).bind fun _ => Prog.uses_pure _
  · exact Prog.uses_pure _
  · exact uses_updateMapInCellIdxRect _

/-! ### Sync -/

section Sync

variable {answers : (o : Op F) → Ret F o → Prop} {s : State F} {tr : List (WorkerEvent F)}

/-- A quiet program keeps what only marks can end. -/
theorem wp_quiet {P : List (WorkerEvent F) → Prop} (hP : ∀ tr e, P tr → ¬IsMark e → P (tr ++ [e]))
    {α : Type} {p : Worker F α} (hp : p.Uses Quiet) (h : P tr) :
    wp (system answers) ResetGuard (fun _ _ => P) (fun _ _ _ => True) p s tr := by
  have hkeep : wp (system answers) ResetGuard (fun _ _ => P) (fun _ _ => P) p s tr :=
    wp_of_uses hp (fun _ tr a _ h _ => hP tr _ h (not_isMark_act a)) h
      (fun s tr _ ho _ => ho.resetGuard s tr)
      (fun _ tr _ r _ ho h _ => hP tr _ h (ho.not_isMark r))
  exact wp_mono hkeep (fun _ _ _ h => h) fun _ _ _ _ => trivial

theorem wp_quiet_started {α : Type} {p : Worker F α} (hp : p.Uses Quiet) (h : SyncStarted tr) :
    wp (system answers) ResetGuard (fun _ _ => SyncStarted) (fun _ _ _ => True) p s tr :=
  wp_quiet (fun _ _ h => h.snoc) hp h

theorem wp_quiet_fetched {α : Type} {p : Worker F α} (hp : p.Uses Quiet) (h : SyncFetched tr) :
    wp (system answers) ResetGuard (fun _ _ => SyncFetched) (fun _ _ _ => True) p s tr :=
  wp_quiet (fun _ _ h => h.snoc) hp h

theorem stable_syncStarted : Stable (system answers) fun _ => SyncStarted :=
  fun _ _ a _ h _ => Last.snoc h (not_isMark_act a)

theorem wp_getMapByPltfm_fetched (area : RectangleF F) (h : SyncStarted tr) :
    wp (system answers) ResetGuard (fun _ _ => SyncFetched) (fun _ _ _ => True)
      (getMapByPltfm area) s tr := by
  apply wp_tryCatch.mpr
  apply wp_seq (R := fun _ _ => SyncFetched)
  · apply wp_perform stable_syncStarted h
    · exact fun s tr _ => Quiet.resetGuard (o := .getMap area) trivial s tr
    · exact fun s tr r s' h _ => h.fetch rfl (Quiet.not_isMark (o := .getMap area) trivial r)
  · intro r s tr h
    cases r with
    | ok hMap => exact h
    | error e => cases e <;> first | exact h | trivial

/-- After an update which returns, a tile has been fetched. -/
theorem wp_updateMapInCellIdxRect_fetched (r : RectangleI) (h : SyncStarted tr) :
    wp (system answers) ResetGuard (fun _ _ => SyncFetched) (fun _ _ _ => True)
      (updateMapInCellIdxRect r) s tr := by
  apply wp_seq (wp_quiet_started uses_readExploreMapHolder h)
  intro holder s tr h
  cases sfCalcAreaByCellIdxRect holder.resolution r with
  | error e => trivial
  | ok area =>
      apply wp_seq (R := fun _ _ => SyncFetched) (wp_getMapByPltfm_fetched area h)
      intro hMap s tr h
      cases hMap with
      | none => exact h
      | some hMap =>
          exact wp_quiet_fetched (uses_writeMap hMap) h

theorem wp_fetchTiles_fetched {rs : List RectangleI} (hrs : rs ≠ []) (h : SyncStarted tr) :
    wp (system answers) ResetGuard (fun _ _ => SyncFetched) (fun _ _ _ => True)
      (fetchTiles rs) s tr := by
  obtain ⟨r, rs', rfl⟩ := List.exists_cons_of_ne_nil hrs
  apply wp_seq (R := fun _ _ => SyncFetched) (wp_updateMapInCellIdxRect_fetched r h)
  intro ok s tr h
  split_ifs
  · exact h
  · exact wp_quiet_fetched (uses_fetchTiles rs') h

/-- A successful sync has fetched a tile, because a non-empty rectangle has tiles. -/
theorem wp_syncWholeMap_fetched (h : SyncStarted tr) :
    wp (system answers) ResetGuard (fun ok _ tr => ok = true → SyncFetched tr)
      (fun _ _ _ => True) syncWholeMap s tr := by
  apply wp_seq (wp_quiet_started (uses_getParameter _) h)
  intro fVal s tr h
  apply wp_seq (wp_quiet_started uses_readExploreMapHolder h)
  intro holder s tr h
  dsimp only
  by_cases honce : 0 < onceMaxCellCntWH fVal holder.resolution
  · rw [boostAssert_of honce, Prog.ofExcept_ok, Prog.ret_bind]
    apply wp_seq (wp_quiet_started uses_getKnownArea h)
    intro knownArea s tr h
    apply wp_seq (wp_quiet_started uses_readExploreMapHolder h)
    intro holder s tr h
    apply wp_seq (wp_quiet_started (Prog.uses_ofExcept _) h)
    intro known s tr h
    split_ifs with hknown
    · exact nofun
    · apply wp_seq (wp_quiet_started (uses_callHolder _) h)
      intro _ s tr h
      apply wp_seq (wp_quiet_started (uses_callHolder _) h)
      intro _ s tr h
      rw [syncRows_eq_fetchTiles]
      exact wp_mono (wp_fetchTiles_fetched (tiles_ne_nil honce hknown) h)
        (fun _ _ _ h _ => h) fun _ _ _ _ => trivial
  · rw [boostAssert, if_neg honce]
    trivial

/-- A program that never resets the flag meets the guard. -/
theorem wp_of_noFlagReset {α : Type} {p : Worker F α}
    (hp : p.Uses fun o => o ≠ .storeSyncMapRequested false) :
    wp (system answers) ResetGuard (fun _ _ _ => True) (fun _ _ _ => True) p s tr :=
  wp_of_uses hp (fun _ _ _ _ h _ => h) trivial (fun _ _ _ ho _ he => absurd he ho)
    fun _ _ _ _ _ _ h _ => h

theorem uses_checkToReinitMap :
    (checkToReinitMap : Worker F Bool).Uses fun o => o ≠ .storeSyncMapRequested false := by
  apply Prog.Uses.bind (Prog.uses_perform (o := Op.readShouldReinitMap) nofun)
  intro shouldReinitMap
  split_ifs
  · exact Prog.uses_pure _
  · apply Prog.Uses.bind (Prog.uses_perform (o := Op.storeSyncMapRequested true) nofun)
    intro _
    apply ((uses_getMapByPltfm reinitArea).mono fun _ => Quiet.noFlagReset).bind
    intro hMap
    cases hMap with
    | none => exact Prog.uses_pure _
    | some hMap =>
        apply ((uses_callHolder _).mono fun _ => Quiet.noFlagReset).bind
        intro _
        exact Prog.Uses.bind (Prog.uses_perform (o := Op.writeShouldReinitMap false) nofun)
          fun _ => Prog.uses_pure _

theorem wp_doPerform_resetGuard :
    wp (system answers) ResetGuard (fun _ _ _ => True) (fun _ _ _ => True) doPerform s tr := by
  apply wp_seq (wp_of_noFlagReset uses_checkToReinitMap)
  intro ok s tr _
  split_ifs with hok
  · trivial
  apply wp_seq (R := fun b _ tr => b = true → SyncStarted tr)
  · refine wp_perform (P := fun _ _ => True) (fun _ _ _ _ h _ => h) trivial
      (fun _ _ _ h => by cases h) ?_
    exact fun _ tr b _ _ _ hb => last_snoc tr (Or.inr ⟨b, rfl⟩) (congrArg EventKind.load hb)
  intro syncMapRequested s tr h
  split_ifs with hsync
  · apply wp_seq (wp_syncWholeMap_fetched (h hsync))
    intro done s tr hdone
    split_ifs with hdone'
    · apply wp_seq (R := fun _ _ _ => True)
      · refine wp_perform (P := fun _ => SyncFetched)
          (fun _ _ a _ h _ => h.snoc (not_isMark_act a)) (hdone hdone')
          (fun _ _ h _ => h) fun _ _ _ _ _ _ => trivial
      · exact fun _ _ _ _ => trivial
    · trivial
  · apply wp_seq (wp_of_noFlagReset (uses_updateMapNearRobot.mono fun _ => Quiet.noFlagReset))
    exact fun _ _ _ _ => trivial

theorem wp_job_resetGuard (j : Job) :
    wp (system answers) ResetGuard (fun _ _ _ => True) (fun _ _ _ => True) (job j) s tr := by
  cases j with
  | doPerform => exact wp_doPerform_resetGuard
  | reinitWorkLoop =>
      apply wp_of_noFlagReset
      exact ⟨nofun, fun _ => ⟨nofun, fun _ => ⟨nofun, fun _ => ⟨nofun, fun _ => trivial⟩⟩⟩⟩

end Sync

/-! ## Runs -/

variable {answers : (o : Op F) → Ret F o → Prop}

theorem resetGuard_reachable {c : WorkerConfig F}
    (h : Reachable (system answers) job WorkerConfig.init c) {o : Op F}
    {k : Ret F o → Worker F Unit} (hc : c.prog = .call o k) : ResetGuard c.state c.trace o := by
  have hinit : wp (system answers) ResetGuard (fun _ _ _ => True) (fun _ _ _ => True)
      (WorkerConfig.init : WorkerConfig F).prog State.init [] := trivial
  have hwp := wp_reachable (fun _ _ _ _ _ h _ => h) (fun _ _ _ _ _ h _ => h)
    (fun j s tr _ => wp_job_resetGuard j) hinit h
  rw [hc] at hwp
  exact (hwp _ _ .refl).1

theorem requestsKept_reachable {c : WorkerConfig F}
    (h : Reachable (system answers) job WorkerConfig.init c)
    (hno : NoRequestDuringSync c.trace) : RequestsKept c.state c.trace := by
  refine invariant_reachable (G := ResetGuard) (I := fun s tr => NoRequestDuringSync tr →
    RequestsKept s tr) (fun _ t e he => by cases he) (fun c hc o k => resetGuard_reachable hc)
    ?_ ?_ ?_ h hno
  · intro s tr o r s' hI hguard hr hno
    have hkept := hI (hno.of_prefix (List.prefix_append _ _))
    have hflag := (handle_flags hr).1
    cases o with
    | storeSyncMapRequested b =>
        cases b with
        | false => exact requestsKept_reset rfl (hguard rfl) hno
        | true => exact hkept.snoc (fun _ => hflag) fun h => nomatch isRequest_op h
    | requestSyncMap => exact fun t e _ _ => Or.inl hflag
    | _ => exact hkept.snoc (fun h => hflag.trans h) fun h => nomatch isRequest_op h
  · intro s tr a s' _ hact _ t e _ _
    left
    rw [show s' = _ from hact]
  · intro s tr j hI hno
    exact (hI (hno.of_prefix (List.prefix_append _ _))).snoc id nofun

/-- The step that resets the flag leaves it reset. -/
theorem step_flagReset {c c' : WorkerConfig F} (h : Step (system answers) job c c')
    {e : WorkerEvent F} (htr : c'.trace = c.trace ++ [e]) (he : IsFlagReset e) :
    c'.state.syncMapRequested = false := by
  cases h with
  | @op o k s s' tr r hr =>
      cases List.append_cancel_left htr
      have ho := isFlagReset_op he
      subst ho
      exact (handle_flags hr).1
  | act ha =>
      cases List.append_cancel_left htr
      cases he
  | start j hdone =>
      cases List.append_cancel_left htr
      cases he

/-- In a run every request is kept up to its end if and only if none falls
between the first fetch of a sync that succeeds and the reset of the flag. -/
theorem requestsKept_iff {run : ℕ → WorkerConfig F} {n : ℕ}
    (hrun : IsRun (system answers) job run n) (hinit : run 0 = WorkerConfig.init) :
    (∀ i ≤ n, RequestsKept (run i).state (run i).trace) ↔ NoRequestDuringSync (run n).trace := by
  have hlen : ∀ i ≤ n, (run i).trace.length = i :=
    fun i hi => hrun.trace_length (by rw [hinit]; rfl) hi
  constructor
  · rintro hkept l f u hsync t e he hreq ⟨hft, htu⟩
    obtain ⟨x, hx, hreset⟩ := hsync.reset
    have hun : u < n := by
      have := lt_length hx
      rwa [hlen n le_rfl] at this
    -- right after the reset the flag is down and nothing has answered the request
    have hpre : (run (u + 1)).trace <+: (run n).trace := hrun.trace_prefix hun le_rfl
    have hat : ∀ i, i ≤ u → (run n).trace[i]? = (run (u + 1)).trace[i]? := fun i hi =>
      getElem?_eq_of_isPrefix hpre (by rw [hlen (u + 1) hun]; omega)
    obtain ⟨y, hy⟩ := (hrun u hun).trace_eq
    rw [hat u le_rfl, hy] at hx
    rcases getElem?_snoc.mp hx with hx | ⟨-, rfl⟩
    · have := lt_length hx
      rw [hlen u hun.le] at this
      omega
    have hflag := step_flagReset (hrun u hun) hy hreset
    rcases hkept (u + 1) hun t e (by rw [← hat t htu.le]; exact he) hreq with h | h
    · rw [hflag] at h
      cases h
    · obtain ⟨l', f', u', hsync', htf'⟩ := h
      have hu' : u' ≤ u := by
        obtain ⟨z, hz, -⟩ := hsync'.reset
        have := lt_length hz
        rw [hlen (u + 1) hun] at this
        omega
      have := hsync.fetch_le (hsync'.of_prefix hpre) hu'
      omega
  · intro hno i hi
    have hreach : Reachable (system answers) job WorkerConfig.init (run i) := by
      rw [← hinit]
      exact hrun.reachable hi
    exact requestsKept_reachable hreach (hno.of_prefix (hrun.trace_prefix hi le_rfl))

/-! ## A lost request -/

/-- A platform with a map of 5 times 4 cells of resolution 4, which takes two
tiles to fetch. -/
def fixedAnswer : (o : Op ℚ) → Ret ℚ o
  | .writeIsWorkLoopInitOk _ => ()
  | .readShouldReinitMap => false
  | .writeShouldReinitMap _ => ()
  | .loadSyncMapRequested => false
  | .storeSyncMapRequested _ => ()
  | .requestSyncMap => ()
  | .readExploreMapHolder => new
  | .callExploreMapHolder _ => .ok ()
  | .readRobotPose => (0, 0)
  | .getParameter _ => (0 : ℚ)
  | .getMap area => .ok (some ⟨(area.x, area.y), (⌊area.width / 4⌋, ⌊area.height / 4⌋), (4, 4),
      List.replicate (⌊area.width / 4⌋ * ⌊area.height / 4⌋).toNat 200⟩)
  | .getKnownArea => .ok ⟨0, 0, 20, 16⟩

def fixedRun (ms : List (Move Act Job)) : ℕ → WorkerConfig ℚ :=
  WorkerConfig.init.runOf (handler fixedAnswer) (fun _ => action) job ms

/-- The first `doPerform`, with a request after `before` of its operations. -/
def syncWithRequest (before after : ℕ) : List (Move Act Job) :=
  .start .doPerform :: List.replicate before .op ++
    .act .requestSyncMap :: List.replicate after .op

theorem isRun_fixedRun (ms : List (Move Act Job))
    (h : ((WorkerConfig.init : WorkerConfig ℚ).play (handler fixedAnswer) (fun _ => action) job
      ms).isSome) : IsRun (system fun _ _ => True) job (fixedRun ms) ms.length := by
  exact isRun_runOf (handle_handler fun _ => trivial) (fun _ _ => rfl) h

def lostKinds : List EventKind :=
  [.start, .other, .other, .fetch, .holderReset, .other, .load true, .other, .other, .other,
    .other, .holderReset, .other, .other, .fetch, .request, .other, .other, .other, .fetch,
    .other, .other, .flagReset]

/-- A request between the two tiles of a sync is wiped out with the flag. -/
theorem request_lost :
    ¬∀ (run : ℕ → WorkerConfig ℚ) (n : ℕ), IsRun (system fun _ _ => True) job run n →
      run 0 = WorkerConfig.init → ∀ i ≤ n, RequestsKept (run i).state (run i).trace := by
  intro hholds
  have hrun := isRun_fixedRun (syncWithRequest 14 7) (by decide +kernel)
  have hkinds : (fixedRun (syncWithRequest 14 7) 23).trace.map kind = lostKinds := by
    decide +kernel
  have hflag : (fixedRun (syncWithRequest 14 7) 23).state.syncMapRequested = false := by
    decide +kernel
  have hkept := hholds _ _ hrun rfl 23 le_rfl
  generalize fixedRun (syncWithRequest 14 7) 23 = c at hkinds hflag hkept
  have hat : ∀ {i e}, c.trace[i]? = some e → lostKinds[i]? = some (kind e) :=
    fun he => hkinds ▸ map_at he
  have hex : ∀ {i k}, lostKinds[i]? = some k → ∃ e, c.trace[i]? = some e ∧ kind e = k :=
    fun hk => exists_of_map_at (hkinds ▸ hk)
  have hfirst : ∀ i < 14, 6 < i → lostKinds[i]? ≠ some .fetch := by decide
  have hstart : ∀ i < 22, 6 < i → lostKinds[i]? ≠ some .start := by decide
  have hload : ∀ i < 22, 6 < i → ∀ flag, lostKinds[i]? ≠ some (.load flag) := by decide
  have hsync : CompletedSync c.trace 6 14 22 := by
    refine ⟨hex rfl, hex rfl, hex rfl, by omega, by omega, ?_, ?_⟩
    · intro i e h₁ h₂ he hfetch
      exact hfirst i h₂ h₁ ((hat he).trans (congrArg some hfetch))
    · rintro i e h₁ h₂ he (h | ⟨flag, h⟩)
      · exact hstart i h₂ h₁ ((hat he).trans (congrArg some h))
      · exact hload i h₂ h₁ flag ((hat he).trans (congrArg some h))
  obtain ⟨e, he, hreq⟩ := hex (i := 15) (k := .request) rfl
  rcases hkept 15 e he hreq with h | ⟨l, f, u, hsync', hlt⟩
  · rw [hflag] at h
    cases h
  · have hu : u < 23 := by
      obtain ⟨x, hx, -⟩ := hsync'.reset
      exact lt_length (hat hx)
    have := hsync.fetch_le hsync' (by omega)
    omega

def answeredKinds : List EventKind :=
  [.start, .other, .other, .fetch, .holderReset, .other, .request, .load true, .other, .other,
    .other, .other, .holderReset, .other, .other, .fetch, .other, .other, .other, .fetch,
    .other, .other, .flagReset]

/-- A request before the flag is loaded is answered by the sync. -/
theorem request_answered :
    RequestsKept (fixedRun (syncWithRequest 5 16) 23).state
      (fixedRun (syncWithRequest 5 16) 23).trace := by
  have hrun := isRun_fixedRun (syncWithRequest 5 16) (by decide +kernel)
  refine (requestsKept_iff hrun rfl).mpr ?_ 23 le_rfl
  have hkinds : (fixedRun (syncWithRequest 5 16) 23).trace.map kind = answeredKinds := by
    decide +kernel
  rintro l f u hsync t e he hreq ⟨hft, -⟩
  have hat : ∀ {i e}, (fixedRun (syncWithRequest 5 16) 23).trace[i]? = some e →
      answeredKinds[i]? = some (kind e) := fun he => hkinds ▸ map_at he
  have hrequest : ∀ i < 23, answeredKinds[i]? = some .request → i = 6 := by decide
  have hload : ∀ i < 23, answeredKinds[i]? = some (.load true) → i = 7 := by decide
  obtain ⟨x, hx, hloadx⟩ := hsync.load
  have ht := hrequest t (lt_length (hat he)) ((hat he).trans (congrArg some hreq))
  have hl := hload l (lt_length (hat hx)) ((hat hx).trans (congrArg some hloadx))
  have := hsync.load_lt
  omega

end Ros2WsDemo.ServerExploreMapUpdateWorker

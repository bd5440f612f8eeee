import Ros2WsDemo.MapUpdate.SyncRequest

/-!
# Incremental updates

`updateMapNearRobot_` patches a map that has been synchronized as a whole since
it was last emptied, with blocks of the resolution of that map.  The worker
guarantees two things locally: it empties the holder only while a sync is
requested, and it writes a block only after comparing resolutions.
-/

namespace Ros2WsDemo.ServerExploreMapUpdateWorker

open Effect ServerMapHolder Trace

section Events

variable {F : Type}

/-- The map passed to the holder by a write. -/
def writtenBlock : WorkerEvent F → Option (MapData F)
  | .op (.callExploreMapHolder (.setMapDataOfMap hMap)) _ => hMap
  | _ => none

/-- The holder has been cleared or reinitialized. -/
def IsHolderReset (e : WorkerEvent F) : Prop := kind e = .holderReset

/-- The running job has found the flag down, so it updates the map near the robot. -/
def NearRobot (tr : List (WorkerEvent F)) : Prop := Last IsMark (IsLoad false) tr

/-- A whole-map sync has completed since the holder was last emptied. -/
def SyncedSinceReset (tr : List (WorkerEvent F)) : Prop :=
  ∃ l f u, CompletedSync tr l f u ∧ NoneAfter IsHolderReset tr u

theorem SyncedSinceReset.snoc {tr : List (WorkerEvent F)} (h : SyncedSinceReset tr)
    {e : WorkerEvent F} (he : ¬IsHolderReset e) : SyncedSinceReset (tr ++ [e]) := by
  obtain ⟨l, f, u, hsync, hnone⟩ := h
  exact ⟨l, f, u, hsync.of_prefix (List.prefix_append _ _), hnone.snoc he⟩

theorem SyncFetched.synced {tr : List (WorkerEvent F)} (h : SyncFetched tr) {e : WorkerEvent F}
    (he : IsFlagReset e) : SyncedSinceReset (tr ++ [e]) := by
  obtain ⟨l, f, hsync⟩ := h.completed he
  exact ⟨l, f, tr.length, hsync, noneAfter_length _ _ _⟩

theorem not_nearRobot_of_last {tr : List (WorkerEvent F)} {k : EventKind}
    (h : Last IsMark (fun e => kind e = k) tr) (hk : k ≠ .load false) : ¬NearRobot tr := by
  intro hnear
  obtain ⟨x, hx, hx'⟩ := h.unique hnear
  exact hk (hx.symm.trans hx')

theorem SyncStarted.not_nearRobot {tr : List (WorkerEvent F)} (h : SyncStarted tr) :
    ¬NearRobot tr :=
  not_nearRobot_of_last h nofun

/-- The running job has not loaded the flag yet. -/
def JobStarted (tr : List (WorkerEvent F)) : Prop := Last IsMark (fun e => kind e = .start) tr

theorem JobStarted.not_nearRobot {tr : List (WorkerEvent F)} (h : JobStarted tr) :
    ¬NearRobot tr :=
  not_nearRobot_of_last h nofun

end Events

variable {F : Type} [FloatArith F]

/-- Every block written since the holder was last emptied has its resolution. -/
def BlocksMatch (s : State F) (tr : List (WorkerEvent F)) : Prop :=
  ∀ q e m, tr[q]? = some e → writtenBlock e = some m → NoneAfter IsHolderReset tr q →
    FloatArith.fequal s.exploreMapHolder.resolution m.mapResolution.1 = true

/-! ## What the worker checks before it touches the holder -/

def UpdateGuard (s : State F) (tr : List (WorkerEvent F)) : Op F → Prop
  | .callExploreMapHolder .clear => s.syncMapRequested = true ∧ ¬NearRobot tr
  | .callExploreMapHolder (.reinit _) => s.syncMapRequested = true ∧ ¬NearRobot tr
  | .callExploreMapHolder (.reserveByCellIdxRect _) => True
  | .callExploreMapHolder (.setMapDataOfMap (some m)) =>
      FloatArith.fequal s.exploreMapHolder.resolution m.mapResolution.1 = true ∧
        (NearRobot tr → s.shouldReinitMap = false)
  | .callExploreMapHolder _ => False
  | _ => True

section Wp

variable {answers : (o : Op F) → Ret F o → Prop} {s : State F} {tr : List (WorkerEvent F)}

/-- Operations that touch neither the holder nor the two flags. -/
def Reads : Op F → Prop
  | .callExploreMapHolder _ => False
  | .writeShouldReinitMap _ => False
  | o => Quiet o

/-- What an update relies on while it runs. -/
structure UpdateInv (answers : (o : Op F) → Ret F o → Prop)
    (P : State F → List (WorkerEvent F) → Prop) : Prop where
  stable : Stable (system answers) P
  keep : ∀ s tr (o : Op F) (r : Ret F o) s', P s tr → Quiet o →
    (∀ b, o ≠ .writeShouldReinitMap b) → (system answers).handle s o r s' → P s' (tr ++ [.op o r])
  reinit : ∀ s tr, P s tr → NearRobot tr → s.shouldReinitMap = false

theorem updateInv_requested {X : List (WorkerEvent F) → Prop}
    (hX : ∀ tr e, X tr → ¬IsMark e → X (tr ++ [e])) (hnear : ∀ tr, X tr → ¬NearRobot tr) :
    UpdateInv answers fun s tr => X tr ∧ s.syncMapRequested = true where
  stable s tr a s' h hact := by
    rw [show s' = _ from hact]
    exact ⟨hX tr _ h.1 (not_isMark_act a), rfl⟩
  keep s tr o r s' h ho _ hr := by
    refine ⟨hX tr _ h.1 (ho.not_isMark r), (handle_flags hr).1.trans ?_⟩
    cases o with
    | storeSyncMapRequested b => exact ho.elim
    | requestSyncMap => rfl
    | _ => exact h.2
  reinit s tr h hn := absurd hn (hnear tr h.1)

theorem updateInv_sync :
    UpdateInv answers fun s tr => SyncStarted tr ∧ s.syncMapRequested = true :=
  updateInv_requested (fun _ _ h => h.snoc) fun _ h => h.not_nearRobot

theorem updateInv_reinit :
    UpdateInv answers fun s tr => JobStarted tr ∧ s.syncMapRequested = true :=
  updateInv_requested (fun _ _ h => h.snoc) fun _ h => h.not_nearRobot

theorem updateInv_nearRobot :
    UpdateInv answers fun s tr => NearRobot tr ∧ s.shouldReinitMap = false where
  stable s tr a s' h hact := by
    rw [show s' = _ from hact]
    exact ⟨h.1.snoc (not_isMark_act a), h.2⟩
  keep s tr o r s' h ho hne hr := by
    refine ⟨h.1.snoc (ho.not_isMark r), (handle_flags hr).2.trans ?_⟩
    cases o with
    | writeShouldReinitMap b => exact absurd rfl (hne b)
    | _ => exact h.2
  reinit _ _ h _ := h.2

variable {P : State F → List (WorkerEvent F) → Prop}

theorem wp_reads (hP : UpdateInv answers P) {α : Type} {p : Worker F α} (hp : p.Uses Reads)
    (h : P s tr) : wp (system answers) UpdateGuard (fun _ => P) (fun _ _ _ => True) p s tr := by
  refine wp_mono (wp_of_uses hp hP.stable h ?_ ?_) (fun _ _ _ h => h) fun _ _ _ _ => trivial
  · intro s tr o ho _
    cases o <;> trivial
  · intro s tr o r s' ho h hr
    refine hP.keep s tr o r s' h ?_ ?_ hr
    · cases o <;> trivial
    · rintro b rfl
      exact ho

theorem wp_callHolder {Q : State F → List (WorkerEvent F) → Prop} (call : HolderCall F)
    (hstable : Stable (system answers) P) (h : P s tr)
    (hguard : ∀ s tr, P s tr → UpdateGuard s tr (.callExploreMapHolder call))
    (hQ : ∀ s tr r s', P s tr → (system answers).handle s (.callExploreMapHolder call) r s' →
      Q s' (tr ++ [.op (.callExploreMapHolder call) r])) :
    wp (system answers) UpdateGuard (fun _ => Q) (fun _ _ _ => True) (callHolder call) s tr := by
  apply wp_seq (wp_perform hstable h hguard hQ)
  intro r s tr h
  cases r with
  | ok _ => exact h
  | error e => trivial

omit [FloatArith F] in
theorem reads_getMapByPltfm (area : RectangleF F) : (getMapByPltfm area).Uses Reads := by
  apply Prog.Uses.tryCatch
  · exact (Prog.uses_perform (o := Op.getMap area) trivial).bind Prog.uses_ofExcept
  · intro e
    cases e <;> trivial

/-- A positive answer means that the resolutions agree. -/
theorem wp_checkRecvResolution (hP : UpdateInv answers P) (recvResolution : F) (h : P s tr) :
    wp (system answers) UpdateGuard (fun ok s tr => ok = true → P s tr ∧
        FloatArith.fequal s.exploreMapHolder.resolution recvResolution = true)
      (fun _ _ _ => True) (checkRecvResolution recvResolution) s tr := by
  apply wp_seq (R := fun holder s tr => P s tr ∧ holder = s.exploreMapHolder)
  · refine wp_perform hP.stable h (fun _ _ _ => trivial) ?_
    intro s tr r s' h hr
    refine ⟨hP.keep s tr .readExploreMapHolder r s' h trivial nofun hr, ?_⟩
    rw [hr.1, hr.2]
  rintro holder s tr ⟨h, rfl⟩
  dsimp only
  split_ifs with hequal
  · exact fun _ => ⟨h, hequal⟩
  · apply wp_seq (R := fun _ _ _ => True)
    · exact wp_perform (P := fun _ _ => True) (fun _ _ _ _ h _ => h) trivial
        (fun _ _ _ => trivial) fun _ _ _ _ _ _ => trivial
    · exact fun _ _ _ _ => nofun

theorem wp_updateMapInCellIdxRect (hP : UpdateInv answers P) (r : RectangleI) (h : P s tr) :
    wp (system answers) UpdateGuard (fun ok s tr => ok = true → P s tr) (fun _ _ _ => True)
      (updateMapInCellIdxRect r) s tr := by
  apply wp_seq (wp_reads hP (Prog.uses_perform (o := Op.readExploreMapHolder) trivial) h)
  intro holder s tr h
  cases sfCalcAreaByCellIdxRect (holder : ServerMapHolder F).resolution r with
  | error e => trivial
  | ok area =>
      apply wp_seq (wp_reads hP (reads_getMapByPltfm area) h)
      intro hMap s tr h
      cases hMap with
      | none => exact nofun
      | some hMap =>
          apply wp_seq (wp_checkRecvResolution hP hMap.mapResolution.1 h)
          intro ok s tr hok
          cases ok with
          | false => exact nofun
          | true =>
              apply wp_seq (R := fun _ => P)
              · refine wp_callHolder (P := fun s tr => P s tr ∧ FloatArith.fequal
                  s.exploreMapHolder.resolution hMap.mapResolution.1 = true) _ ?_ (hok rfl) ?_ ?_
                · intro s tr a s' h hact
                  have hstable := hP.stable s tr a s' h.1 hact
                  rw [show s' = _ from hact] at hstable ⊢
                  exact ⟨hstable, h.2⟩
                · exact fun s tr h => ⟨h.2, hP.reinit s tr h.1⟩
                · exact fun s tr r s' h hr => hP.keep s tr _ r s' h.1 trivial nofun hr
              · exact fun _ _ _ h _ => h

theorem wp_fetchTiles (hP : UpdateInv answers P) (rs : List RectangleI) (h : P s tr) :
    wp (system answers) UpdateGuard (fun _ _ _ => True) (fun _ _ _ => True)
      (fetchTiles rs) s tr := by
  induction rs generalizing s tr with
  | nil => trivial
  | cons r rs ih =>
      apply wp_seq (wp_updateMapInCellIdxRect hP r h)
      intro ok s tr hok
      cases ok with
      | false => trivial
      | true => exact ih (hok rfl)

theorem wp_checkToReinitMap (h : JobStarted tr) :
    wp (system answers) UpdateGuard
      (fun ok s tr => ok = true → JobStarted tr ∧ s.shouldReinitMap = false)
      (fun _ _ _ => True) checkToReinitMap s tr := by
  have hstable : Stable (system answers) fun _ tr => JobStarted (F := F) tr :=
    fun _ _ a _ h _ => h.snoc (not_isMark_act a)
  apply wp_seq (R := fun (b : Bool) s tr => JobStarted tr ∧ b = s.shouldReinitMap)
  · refine wp_perform hstable h (fun _ _ _ => trivial) ?_
    intro s tr r s' h hr
    refine ⟨h.snoc (Quiet.not_isMark (o := .readShouldReinitMap) trivial r), ?_⟩
    rw [hr.1, hr.2]
  rintro shouldReinitMap s tr ⟨h, hflag⟩
  cases shouldReinitMap with
  | false => exact fun _ => ⟨h, hflag.symm⟩
  | true =>
      apply wp_seq (R := fun _ s tr => JobStarted tr ∧ s.syncMapRequested = true)
      · refine wp_perform hstable h (fun _ _ _ => trivial) ?_
        intro s tr r s' h hr
        refine ⟨h.snoc ?_, (handle_flags hr).1⟩
        exact fun hm => nomatch isMark_op hm
      intro _ s tr h
      apply wp_seq (wp_reads updateInv_reinit (reads_getMapByPltfm reinitArea) h)
      intro hMap s tr h
      cases hMap with
      | none => exact nofun
      | some hMap =>
          apply wp_seq (R := fun _ s tr => JobStarted tr ∧ s.syncMapRequested = true)
          · refine wp_callHolder _ updateInv_reinit.stable h ?_ ?_
            · exact fun s tr h => ⟨h.2, h.1.not_nearRobot⟩
            · exact fun s tr r s' h hr => updateInv_reinit.keep s tr _ r s' h trivial nofun hr
          intro _ s tr h
          apply wp_seq (R := fun _ s tr => JobStarted tr ∧ s.shouldReinitMap = false)
          · refine wp_perform hstable h.1 (fun _ _ _ => trivial) ?_
            intro s tr r s' h hr
            refine ⟨h.snoc ?_, (handle_flags hr).2⟩
            exact fun hm => nomatch isMark_op hm
          · exact fun _ _ _ h _ => h

theorem wp_syncWholeMap (h : SyncStarted tr ∧ s.syncMapRequested = true) :
    wp (system answers) UpdateGuard (fun _ _ _ => True) (fun _ _ _ => True) syncWholeMap s tr := by
  apply wp_seq (wp_reads updateInv_sync (Prog.uses_perform (o := Op.getParameter _) trivial) h)
  intro fVal s tr h
  apply wp_seq (wp_reads updateInv_sync
    (Prog.uses_perform (o := Op.readExploreMapHolder) trivial) h)
  intro holder s tr h
  apply wp_seq (wp_reads updateInv_sync (Prog.uses_ofExcept _) h)
  intro _ s tr h
  apply wp_seq (wp_reads updateInv_sync
    ((Prog.uses_perform (o := Op.getKnownArea) trivial).bind Prog.uses_ofExcept) h)
  intro knownArea s tr h
  apply wp_seq (wp_reads updateInv_sync
    (Prog.uses_perform (o := Op.readExploreMapHolder) trivial) h)
  intro holder s tr h
  apply wp_seq (wp_reads updateInv_sync (Prog.uses_ofExcept _) h)
  intro known s tr h
  split_ifs
  · trivial
  apply wp_seq (R := fun _ s tr => SyncStarted tr ∧ s.syncMapRequested = true)
  · refine wp_callHolder _ updateInv_sync.stable h ?_ ?_
    · exact fun s tr h => ⟨h.2, h.1.not_nearRobot⟩
    · exact fun s tr r s' h hr => updateInv_sync.keep s tr _ r s' h trivial nofun hr
  intro _ s tr h
  apply wp_seq (R := fun _ s tr => SyncStarted tr ∧ s.syncMapRequested = true)
  · refine wp_callHolder _ updateInv_sync.stable h (fun _ _ _ => trivial) ?_
    exact fun s tr r s' h hr => updateInv_sync.keep s tr _ r s' h trivial nofun hr
  intro _ s tr h
  rw [syncRows_eq_fetchTiles]
  exact wp_fetchTiles updateInv_sync _ h

theorem wp_updateMapNearRobot (h : NearRobot tr ∧ s.shouldReinitMap = false) :
    wp (system answers) UpdateGuard (fun _ _ _ => True) (fun _ _ _ => True)
      updateMapNearRobot s tr := by
  apply wp_seq (wp_reads updateInv_nearRobot
    (Prog.uses_perform (o := Op.getParameter _) trivial) h)
  intro fVal s tr h
  apply wp_seq (wp_reads updateInv_nearRobot (Prog.uses_perform (o := Op.readRobotPose) trivial) h)
  intro robotPose s tr h
  apply wp_seq (wp_reads updateInv_nearRobot
    (Prog.uses_perform (o := Op.readExploreMapHolder) trivial) h)
  intro holder s tr h
  apply wp_seq (wp_reads updateInv_nearRobot (Prog.uses_ofExcept _) h)
  intro nearRobotIdxRect s tr h
  apply wp_seq (wp_reads updateInv_nearRobot
    ((Prog.uses_perform (o := Op.getKnownArea) trivial).bind Prog.uses_ofExcept) h)
  intro knownArea s tr h
  apply wp_seq (wp_reads updateInv_nearRobot (Prog.uses_ofExcept _) h)
  intro known s tr h
  dsimp only
  split_ifs
  · exact wp_mono (wp_reads updateInv_nearRobot
      ((Prog.uses_perform (o := Op.requestSyncMap) trivial).bind fun _ => Prog.uses_pure _) h)
      (fun _ _ _ _ => trivial) fun _ _ _ _ => trivial
  · trivial
  · exact wp_mono (wp_updateMapInCellIdxRect updateInv_nearRobot _ h)
      (fun _ _ _ _ => trivial) fun _ _ _ _ => trivial

theorem wp_doPerform_updateGuard (h : JobStarted tr) :
    wp (system answers) UpdateGuard (fun _ _ _ => True) (fun _ _ _ => True) doPerform s tr := by
  apply wp_seq (wp_checkToReinitMap h)
  intro ok s tr hok
  cases ok with
  | false => trivial
  | true =>
      have hpre := hok rfl
      apply wp_seq (R := fun (flag : Bool) s tr => Last IsMark (IsLoad flag) tr ∧
        (flag = true → s.syncMapRequested = true) ∧ s.shouldReinitMap = false)
      · refine wp_perform (P := fun s _ => s.shouldReinitMap = false) ?_ hpre.2
          (fun _ _ _ => trivial) ?_
        · intro s tr a s' h hact
          rw [show s' = _ from hact]
          exact h
        · intro s tr r s' h hr
          rw [hr.2]
          exact ⟨last_snoc tr (Or.inr ⟨r, rfl⟩) rfl, fun hr' => hr.1.symm.trans hr', h⟩
      rintro flag s tr ⟨hlast, hflag, hreinit⟩
      cases flag with
      | true =>
          apply wp_seq (wp_syncWholeMap ⟨hlast, hflag rfl⟩)
          intro done s tr _
          cases done with
          | false => trivial
          | true =>
              apply wp_seq (R := fun _ _ _ => True)
              · exact wp_perform (P := fun _ _ => True) (fun _ _ _ _ h _ => h) trivial
                  (fun _ _ _ => trivial) fun _ _ _ _ _ _ => trivial
              · exact fun _ _ _ _ => trivial
      | false =>
          apply wp_seq (wp_updateMapNearRobot ⟨hlast, hreinit⟩)
          exact fun _ _ _ _ => trivial

theorem wp_job_updateGuard (j : Job) :
    wp (system answers) UpdateGuard (fun _ _ _ => True) (fun _ _ _ => True) (job j) s
      (tr ++ [.start j]) := by
  cases j with
  | doPerform => exact wp_doPerform_updateGuard (last_snoc tr (Or.inl rfl) rfl)
  | reinitWorkLoop =>
      refine wp_of_uses (S := fun o => ∀ call, o ≠ .callExploreMapHolder call)
        ⟨nofun, fun _ => ⟨nofun, fun _ => ⟨nofun, fun _ => ⟨nofun, fun _ => trivial⟩⟩⟩⟩
        (fun _ _ _ _ h _ => h) trivial ?_ fun _ _ _ _ _ _ h _ => h
      intro s tr o ho _
      cases o with
      | callExploreMapHolder call => exact absurd rfl (ho call)
      | _ => trivial

end Wp

/-! ## Runs -/

section Runs

variable {answers : (o : Op F) → Ret F o → Prop}

theorem updateGuard_reachable {c : WorkerConfig F}
    (h : Reachable (system answers) job WorkerConfig.init c) {o : Op F}
    {k : Ret F o → Worker F Unit} (hc : c.prog = .call o k) : UpdateGuard c.state c.trace o := by
  have hinit : wp (system answers) UpdateGuard (fun _ _ _ => True) (fun _ _ _ => True)
      (WorkerConfig.init : WorkerConfig F).prog State.init [] := trivial
  have hwp := wp_reachable (fun _ _ _ _ _ h _ => h) (fun _ _ _ _ _ h _ => h)
    (fun j s tr _ => wp_job_updateGuard j) hinit h
  rw [hc] at hwp
  exact (hwp _ _ .refl).1

/-- What an operation of the worker does to the holder. -/
theorem handle_exploreMapHolder {s s' : State F} {o : Op F} {r : Ret F o}
    (hI : Inv s.exploreMapHolder) (h : (system answers).handle s o r s') :
    Inv s'.exploreMapHolder ∧ (¬IsHolderReset (.op o r : WorkerEvent F) →
      s'.exploreMapHolder.resolution = s.exploreMapHolder.resolution) := by
  cases o with
  | callExploreMapHolder call =>
      obtain ⟨alloc, h⟩ := h
      rcases exec_spec hI alloc call with ⟨h', hrun, hexec⟩ | ⟨e, hrun, -⟩
      · simp only [hrun] at h
        obtain ⟨hr, rfl⟩ := h
        refine ⟨hexec.inv, fun hreset => hexec.resolution_eq ?_⟩
        cases hcall : call.isReset with
        | false => rfl
        | true =>
            refine absurd ?_ hreset
            have hok : (r : Except Exn Unit) = .ok () := hr
            simp [IsHolderReset, kind, hcall, hok, Except.isOk, Except.toBool]
      · simp only [hrun] at h
        obtain ⟨-, rfl⟩ := h
        exact ⟨hI, fun _ => rfl⟩
  | writeIsWorkLoopInitOk b => cases h; exact ⟨hI, fun _ => rfl⟩
  | writeShouldReinitMap b => cases h; exact ⟨hI, fun _ => rfl⟩
  | storeSyncMapRequested b => cases h; exact ⟨hI, fun _ => rfl⟩
  | requestSyncMap => cases h; exact ⟨hI, fun _ => rfl⟩
  | readShouldReinitMap => rw [h.2]; exact ⟨hI, fun _ => rfl⟩
  | loadSyncMapRequested => rw [h.2]; exact ⟨hI, fun _ => rfl⟩
  | readExploreMapHolder => rw [h.2]; exact ⟨hI, fun _ => rfl⟩
  | readRobotPose => rw [h.2]; exact ⟨hI, fun _ => rfl⟩
  | getParameter name => rw [h.2]; exact ⟨hI, fun _ => rfl⟩
  | getMap area => rw [h.2]; exact ⟨hI, fun _ => rfl⟩
  | getKnownArea => rw [h.2]; exact ⟨hI, fun _ => rfl⟩

/-- The invariant of the worker.  A map that is not synchronized is requested to be. -/
structure MapInv (s : State F) (tr : List (WorkerEvent F)) : Prop where
  holder : Inv s.exploreMapHolder
  synced : s.syncMapRequested = false → SyncedSinceReset tr
  near : NearRobot tr → SyncedSinceReset tr
  blocks : BlocksMatch s tr
  reinit : ∀ e m, tr.getLast? = some e → writtenBlock e = some m → NearRobot tr →
    s.shouldReinitMap = false

/-- Events that leave the holder as it is, or write into it under the guard. -/
theorem MapInv.snoc {s s' : State F} {tr : List (WorkerEvent F)} (h : MapInv s tr)
    {e : WorkerEvent F} (hholder : Inv s'.exploreMapHolder)
    (hres : s'.exploreMapHolder.resolution = s.exploreMapHolder.resolution)
    (hreset : ¬IsHolderReset e)
    (hflag : s'.syncMapRequested = false → SyncedSinceReset (tr ++ [e]))
    (hload : IsLoad false e → SyncedSinceReset tr)
    (hwrite : ∀ m, writtenBlock e = some m → FloatArith.fequal s.exploreMapHolder.resolution
      m.mapResolution.1 = true ∧ (NearRobot (tr ++ [e]) → s'.shouldReinitMap = false)) :
    MapInv s' (tr ++ [e]) where
  holder := hholder
  synced := hflag
  near hnear := by
    rcases hnear.of_snoc with ⟨-, hl⟩ | ⟨-, hnear⟩
    · exact (hload hl).snoc hreset
    · exact (h.near hnear).snoc hreset
  blocks q x m hx hm hnone := by
    rw [hres]
    rcases getElem?_snoc.mp hx with hx | ⟨-, rfl⟩
    · exact h.blocks q x m hx hm (hnone.of_snoc (lt_length hx)).1
    · exact (hwrite m hm).1
  reinit x m hx hm := by
    rw [List.getLast?_concat] at hx
    cases hx
    exact (hwrite m hm).2

/-- Emptying the holder, which is guarded by a request. -/
theorem MapInv.reset {s' : State F} {tr : List (WorkerEvent F)} {e : WorkerEvent F}
    (hholder : Inv s'.exploreMapHolder) (hreset : IsHolderReset e) (hmark : ¬IsMark e)
    (hwrite : writtenBlock e = none) (hflag : s'.syncMapRequested = true)
    (hnear : ¬NearRobot tr) : MapInv s' (tr ++ [e]) where
  holder := hholder
  synced h := by
    rw [hflag] at h
    cases h
  near h := by
    rcases h.of_snoc with ⟨hm, -⟩ | ⟨-, h⟩
    · exact absurd hm hmark
    · exact absurd h hnear
  blocks q x m hx hm hnone := by
    rcases getElem?_snoc.mp hx with hx | ⟨-, rfl⟩
    · exact absurd hreset (hnone.of_snoc (lt_length hx)).2
    · rw [hwrite] at hm
      cases hm
  reinit x m hx hm := by
    rw [List.getLast?_concat] at hx
    cases hx
    rw [hwrite] at hm
    cases hm

omit [FloatArith F] in
theorem isHolderReset_op {o : Op F} {r : Ret F o} (h : IsHolderReset (.op o r)) :
    o = .callExploreMapHolder .clear ∨
      ∃ resolution, o = .callExploreMapHolder (.reinit resolution) := by
  cases o with
  | callExploreMapHolder call =>
      cases call with
      | clear => exact Or.inl rfl
      | reinit resolution => exact Or.inr ⟨resolution, rfl⟩
      | _ => cases h
  | storeSyncMapRequested b => cases b <;> cases h
  | _ => cases h

omit [FloatArith F] in
theorem writtenBlock_op {o : Op F} {r : Ret F o} {m : MapData F}
    (h : writtenBlock (.op o r) = some m) :
    o = .callExploreMapHolder (.setMapDataOfMap (some m)) := by
  cases o with
  | callExploreMapHolder call =>
      cases call with
      | setMapDataOfMap hMap => rw [show hMap = some m from h]
      | _ => cases h
  | _ => cases h

theorem mapInv_init : MapInv (State.init : State F) [] where
  holder := inv_new
  synced h := by cases h
  near h := by
    obtain ⟨l, x, hx, -⟩ := h
    cases hx
  blocks q e m hx := by cases hx
  reinit e m hx := by cases hx

theorem mapInv_op {s s' : State F} {tr : List (WorkerEvent F)} {o : Op F} {r : Ret F o}
    (h : MapInv s tr) (hresetGuard : ResetGuard s tr o) (hguard : UpdateGuard s tr o)
    (hr : (system answers).handle s o r s') : MapInv s' (tr ++ [.op o r]) := by
  obtain ⟨hholder, hres⟩ := handle_exploreMapHolder h.holder hr
  obtain ⟨hflag, hreinit⟩ := handle_flags hr
  by_cases hreset : IsHolderReset (.op o r : WorkerEvent F)
  · have hmark : ¬IsMark (.op o r : WorkerEvent F) := by
      intro hm
      have ho := isMark_op hm
      subst ho
      cases hreset
    rcases isHolderReset_op hreset with rfl | ⟨resolution, rfl⟩
    · exact MapInv.reset hholder hreset hmark rfl (hflag.trans hguard.1) hguard.2
    · exact MapInv.reset hholder hreset hmark rfl (hflag.trans hguard.1) hguard.2
  · refine h.snoc hholder (hres hreset) hreset ?_ ?_ ?_
    · intro hdown
      rw [hflag] at hdown
      cases o with
      | storeSyncMapRequested b =>
          cases b with
          | false => exact SyncFetched.synced (hresetGuard rfl) rfl
          | true => cases hdown
      | requestSyncMap => cases hdown
      | _ => exact (h.synced hdown).snoc hreset
    · intro hload
      have ho := isMark_op (Or.inr ⟨false, hload⟩)
      subst ho
      refine h.synced ?_
      rw [← hr.1]
      exact EventKind.load.inj hload
    · intro m hm
      have ho := writtenBlock_op hm
      subst ho
      refine ⟨hguard.1, fun hnear => hreinit.trans (hguard.2 ?_)⟩
      rcases hnear.of_snoc with ⟨hmark, -⟩ | ⟨-, hnear⟩
      · cases isMark_op hmark
      · exact hnear

theorem mapInv_reachable {c : WorkerConfig F}
    (h : Reachable (system answers) job WorkerConfig.init c) : MapInv c.state c.trace := by
  refine invariant_reachable (G := fun s tr o => ResetGuard s tr o ∧ UpdateGuard s tr o)
    mapInv_init ?_ ?_ ?_ ?_ h
  · exact fun c hc o k hprog => ⟨resetGuard_reachable hc hprog, updateGuard_reachable hc hprog⟩
  · exact fun s tr o r s' hI hG hr => mapInv_op hI hG.1 hG.2 hr
  · intro s tr a s' hI hact
    rw [show s' = _ from hact]
    refine hI.snoc hI.holder rfl ?_ nofun nofun nofun
    cases a
    nofun
  · intro s tr j hI
    exact hI.snoc hI.holder rfl nofun (fun hdown => (hI.synced hdown).snoc nofun) nofun nofun

/-- Whenever an incremental update writes a block into the holder, no reinit is
pending, a whole-map sync has completed since the holder was last emptied, and
this block and every other one written since then has the holder's resolution. -/
theorem near_update_safe {c : WorkerConfig F}
    (h : Reachable (system answers) job WorkerConfig.init c) {e : WorkerEvent F} {m : MapData F}
    (hlast : c.trace.getLast? = some e) (hwrite : writtenBlock e = some m)
    (hnear : NearRobot c.trace) :
    c.state.shouldReinitMap = false ∧ SyncedSinceReset c.trace ∧
      FloatArith.fequal c.state.exploreMapHolder.resolution m.mapResolution.1 = true ∧
      BlocksMatch c.state c.trace := by
  have hI := mapInv_reachable h
  refine ⟨hI.reinit e m hlast hwrite hnear, hI.near hnear, ?_, hI.blocks⟩
  rw [List.getLast?_eq_getElem?] at hlast
  refine hI.blocks _ e m hlast hwrite ?_
  intro i x hi hx
  have := lt_length hx
  omega

end Runs

/-- A sync followed by an incremental update. -/
def syncThenUpdate : List (Move Act Job) :=
  .start .doPerform :: List.replicate 21 .op ++ .start .doPerform :: List.replicate 10 .op

def updateKinds : List EventKind :=
  [.start, .other, .other, .fetch, .holderReset, .other, .load true, .other, .other, .other,
    .other, .holderReset, .other, .other, .fetch, .other, .other, .other, .fetch, .other, .other,
    .flagReset, .start, .other, .load false, .other, .other, .other, .other, .other, .fetch,
    .other, .other]

theorem near_update_safe_example :
    ∃ c : WorkerConfig ℚ, Reachable (system fun _ _ => True) job WorkerConfig.init c ∧
      c.trace.map kind = updateKinds ∧ c.state.shouldReinitMap = false ∧
      SyncedSinceReset c.trace ∧ BlocksMatch c.state c.trace := by
  have hrun := isRun_fixedRun syncThenUpdate (by decide +kernel)
  have hreach := hrun.reachable (i := 33) (by decide)
  have hkinds : (fixedRun syncThenUpdate 33).trace.map kind = updateKinds := by decide +kernel
  have hblock : (fixedRun syncThenUpdate 33).trace.getLast?.bind writtenBlock =
      some ⟨(0, 0), (1, 1), (4, 4), [200]⟩ := by decide +kernel
  rw [show fixedRun syncThenUpdate 0 = WorkerConfig.init from rfl] at hreach
  generalize fixedRun syncThenUpdate 33 = c at hreach hkinds hblock
  obtain ⟨e, hlast, hwrite⟩ := Option.bind_eq_some_iff.mp hblock
  have hload : ∀ i < 33, 24 < i → updateKinds[i]? = some .other ∨
      updateKinds[i]? = some .fetch := by decide
  have hnear : NearRobot c.trace := by
    have hkx : (c.trace.map kind)[24]? = some (.load false) := by
      rw [hkinds]
      rfl
    obtain ⟨x, hx, hkx⟩ := exists_of_map_at hkx
    refine ⟨24, x, hx, Or.inr ⟨false, hkx⟩, hkx, ?_⟩
    intro i y hi hy hmark
    have hky : updateKinds[i]? = some (kind y) := hkinds ▸ map_at hy
    rcases hload i (lt_length hky) hi with h | h <;>
      rcases hmark with hm | ⟨flag, hm⟩ <;> cases (hky.symm.trans h).symm.trans (congrArg some hm)
  obtain ⟨hreinit, hsynced, -, hblocks⟩ := near_update_safe hreach hlast hwrite hnear
  exact ⟨c, hreach, hkinds, hreinit, hsynced, hblocks⟩

end Ros2WsDemo.ServerExploreMapUpdateWorker

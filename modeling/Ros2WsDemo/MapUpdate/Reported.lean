import Ros2WsDemo.Lib.Sequential
import Ros2WsDemo.MapUpdate.FailedSync
import Ros2WsDemo.MapUpdate.Incremental

/-!
# The published map against the robot

A robot may report certain bytes for every cell, and certain areas as known.  Whatever else it
does, the holder never shows a cell differently, and while no sync is requested it is complete:
it shows all cells of some area that the robot has reported as known.
-/

namespace Ros2WsDemo.ServerExploreMapUpdateWorker

open Effect ServerMapHolder StridedCopy

variable {K : Type} [Field K] [LinearOrder K] [IsStrictOrderedRing K] [FloorRing K]

/-! ## The robot -/

structure World (K : Type) where
  resolution : K
  bytes : ℤ → ℤ → Set UInt8
  areas : Set (RectangleF K)

/-- The map consists of the cells of `rect`, with bytes the robot may report. -/
structure World.Shows (w : World K) (rect : RectangleI) (m : MapData K) : Prop extends
    CoversExactly w.resolution rect m where
  bytes : ∀ x y, sfDoesCellIdxRectContain rect x y → ∀ b,
    ofList m.mapData (cellOffset rect x y) = some b → b ∈ w.bytes x y

/-- The robot may fail at any call. -/
def World.answers (w : World K) : (o : Op K) → Ret K o → Prop
  | .getKnownArea, (r : Except Exn (RectangleF K)) => ∀ area, r = .ok area → area ∈ w.areas
  | .getMap area, (r : Except Exn (Map K)) => ∀ m, r = .ok (some m) →
      m.mapResolution.1 = w.resolution ∧ ∀ rect, ¬sfIsCellIdxRectEmpty rect →
        sfCalcAreaByCellIdxRect w.resolution rect = .ok area → w.Shows rect m
  | _, _ => True

/-- The cells of a known area. -/
def World.KnownRect (w : World K) (known : RectangleI) : Prop :=
  ∃ area ∈ w.areas, sfCalcRoundedCellIdxRect w.resolution area = .ok known

def World.Knows (w : World K) (x y : ℤ) : Prop :=
  ∃ known, w.KnownRect known ∧ sfDoesCellIdxRectContain known x y

/-! ## The holder -/

/-- Every byte that is not unknown was reported for its cell. -/
structure World.Reported (w : World K) (h : ServerMapHolder K) : Prop where
  inv : Inv h
  bytes : ∀ x y, byteAt h x y = 0 ∨ w.Knows x y ∧ byteAt h x y ∈ w.bytes x y

/-- The cells of a rectangle have been written. -/
def World.Filled (w : World K) (cells : ℤ → ℤ → Prop) (h : ServerMapHolder K) : Prop :=
  h.resolution = w.resolution ∧ ∀ x y, cells x y →
    sfDoesCellIdxRectContain h.validCellIdxRect x y ∧ byteAt h x y ∈ w.bytes x y

def World.Complete (w : World K) (h : ServerMapHolder K) : Prop :=
  ∃ known, w.KnownRect known ∧ ¬sfIsCellIdxRectEmpty known ∧
    w.Filled (sfDoesCellIdxRectContain known) h

structure World.Faithful (w : World K) (s : State K) : Prop where
  reported : w.Reported s.exploreMapHolder
  resolution : s.shouldReinitMap = false → s.exploreMapHolder.resolution = w.resolution
  complete : s.syncMapRequested = false → w.Complete s.exploreMapHolder

section Holder

variable {w : World K} {h h' : ServerMapHolder K} {s : State K} {rect : RectangleI}
  {m : MapData K} {cells : ℤ → ℤ → Prop}

theorem reported_new (w : World K) : w.Reported new where
  inv := inv_new
  bytes x y := Or.inl (byteAt_of_empty empty_default x y)

theorem reported_emptied (hI : Inv h') (hempty : ∀ x y, byteAt h' x y = 0) : w.Reported h' where
  inv := hI
  bytes x y := Or.inl (hempty x y)

omit [LinearOrder K] [IsStrictOrderedRing K] [FloorRing K] in
/-- Every cell of the map has a byte. -/
theorem World.Shows.byte_mem (hm : w.Shows rect m) {x y : ℤ}
    (hxy : sfDoesCellIdxRectContain rect x y) :
    (ofList m.mapData (cellOffset rect x y)).getD 0 ∈ w.bytes x y := by
  obtain ⟨b, hb⟩ := Option.isSome_iff_exists.mp (ofList_isSome_of_contain hm.size.ge hxy)
  rw [hb]
  exact hm.bytes x y hxy b hb

theorem World.Reported.write (hh : w.Reported h) (hm : w.Shows rect m)
    (hknown : ∀ x y, sfDoesCellIdxRectContain rect x y → w.Knows x y)
    (hwritten : WrittenTo rect (ofList m.mapData) h h') : w.Reported h' where
  inv := hwritten.inv
  bytes x y := by
    rw [hwritten.byteAt_eq]
    split_ifs with hxy
    · exact Or.inr ⟨hknown x y hxy, hm.byte_mem hxy⟩
    · exact hh.bytes x y

theorem World.Filled.write (hh : w.Filled cells h) (hm : w.Shows rect m)
    (hwritten : WrittenTo rect (ofList m.mapData) h h') :
    w.Filled (fun x y => cells x y ∨ sfDoesCellIdxRectContain rect x y) h' := by
  have hmerged := (isJoin_mergedRect h.validCellIdxRect rect h'.validCellIdxRect).mp
    hwritten.valid_eq.ge
  refine ⟨hwritten.resolution_eq.trans hh.1, fun x y hxy => ?_⟩
  rw [hwritten.byteAt_eq]
  split_ifs with hin
  · exact ⟨le_iff_forall_contain.mp hmerged.2 x y hin, hm.byte_mem hin⟩
  · obtain ⟨hvalid, hbyte⟩ := hh.2 x y (hxy.resolve_right hin)
    exact ⟨le_iff_forall_contain.mp hmerged.1 x y hvalid, hbyte⟩

theorem World.Filled.grown (hh : w.Filled cells h) (hgrown : GrownTo h h') : w.Filled cells h' :=
  ⟨hgrown.resolution_eq.trans hh.1, fun x y hxy => by
    rw [hgrown.valid_eq, hgrown.byteAt_eq]
    exact hh.2 x y hxy⟩

omit [LinearOrder K] [IsStrictOrderedRing K] [FloorRing K] [Field K] in
theorem filled_nothing (hres : h.resolution = w.resolution) :
    w.Filled (fun _ _ => False) h :=
  ⟨hres, fun _ _ => False.elim⟩

omit [Field K] [LinearOrder K] [IsStrictOrderedRing K] [FloorRing K] in
theorem World.Filled.mono {cells' : ℤ → ℤ → Prop} (hh : w.Filled cells h)
    (hcells : ∀ x y, cells' x y → cells x y) : w.Filled cells' h :=
  ⟨hh.1, fun x y hxy => hh.2 x y (hcells x y hxy)⟩

theorem World.Complete.write (hh : w.Complete h) (hm : w.Shows rect m)
    (hwritten : WrittenTo rect (ofList m.mapData) h h') : w.Complete h' := by
  obtain ⟨known, hknown, hne, hfilled⟩ := hh
  exact ⟨known, hknown, hne, (hfilled.write hm hwritten).mono fun x y hxy => Or.inl hxy⟩

/-- A rectangle that is written changes nothing else. -/
theorem World.Faithful.write (hs : w.Faithful s) (hm : w.Shows rect m)
    (hknown : ∀ x y, sfDoesCellIdxRectContain rect x y → w.Knows x y)
    (hwritten : WrittenTo rect (ofList m.mapData) s.exploreMapHolder h') :
    w.Faithful { s with exploreMapHolder := h' } where
  reported := hs.reported.write hm hknown hwritten
  resolution hno := hwritten.resolution_eq.trans (hs.resolution hno)
  complete hno := (hs.complete hno).write hm hwritten

theorem World.Faithful.grown (hs : w.Faithful s) (hgrown : GrownTo s.exploreMapHolder h') :
    w.Faithful { s with exploreMapHolder := h' } where
  reported := ⟨hgrown.inv, fun x y => by
    rw [hgrown.byteAt_eq]
    exact hs.reported.bytes x y⟩
  resolution hno := hgrown.resolution_eq.trans (hs.resolution hno)
  complete hno := by
    obtain ⟨known, hknown, hne, hfilled⟩ := hs.complete hno
    exact ⟨known, hknown, hne, hfilled.grown hgrown⟩

/-- The holder may be emptied while a sync is requested. -/
theorem faithful_emptied (hflag : s.syncMapRequested = true) (hI : Inv h')
    (hempty : ∀ x y, byteAt h' x y = 0)
    (hres : s.shouldReinitMap = false → h'.resolution = w.resolution) :
    w.Faithful { s with exploreMapHolder := h' } where
  reported := reported_emptied hI hempty
  resolution := hres
  complete hno := by
    rw [show s.syncMapRequested = false from hno] at hflag
    cases hflag

end Holder

/-! ## Operations -/

/-- Operations that neither touch the holder nor take a flag down. -/
def Harmless : Op K → Prop
  | .callExploreMapHolder _ | .writeShouldReinitMap false | .storeSyncMapRequested false => False
  | _ => True

/-- The assertion depends on the holder, and may rely on a request that stands. -/
def Keeping (P : State K → List (WorkerEvent K) → Prop) : Prop :=
  ∀ s s' tr e, P s tr → s'.exploreMapHolder = s.exploreMapHolder →
    (s'.shouldReinitMap = false → s.shouldReinitMap = false) →
    (s.syncMapRequested = true → s'.syncMapRequested = true) → P s' (tr ++ [e])

section Wp

variable {w : World K} {s s' : State K} {tr : List (WorkerEvent K)} {α : Type}
  {P : State K → List (WorkerEvent K) → Prop}

theorem Harmless.keeps {o : Op K} {r : Ret K o} (ho : Harmless o) (hP : Keeping P) (h : P s tr)
    (hr : (system w.answers).handle s o r s') : P s' (tr ++ [.op o r]) := by
  have hflags := handle_flags hr
  refine hP s s' tr _ h ?_ ?_ ?_
  · cases o with
    | callExploreMapHolder call => exact ho.elim
    | getMap area => exact congrArg _ hr.2
    | _ =>
        refine Idle.holder_eq ?_ hr
        trivial
  · rw [hflags.2]
    cases o with
    | writeShouldReinitMap b =>
        cases b with
        | false => exact ho.elim
        | true => exact nofun
    | _ => exact id
  · rw [hflags.1]
    cases o with
    | storeSyncMapRequested b =>
        cases b with
        | false => exact ho.elim
        | true => exact fun _ => rfl
    | requestSyncMap => exact fun _ => rfl
    | _ => exact id

theorem Keeping.stable (hP : Keeping P) : Stable (system w.answers) P := by
  intro s tr a s' h hact
  rw [show s' = _ from hact]
  exact hP s _ tr _ h rfl id fun _ => rfl

theorem keeping_faithful : Keeping fun s (_ : List (WorkerEvent K)) => w.Faithful s := by
  intro s s' tr e h hholder hreinit hflag
  refine ⟨hholder ▸ h.reported, fun hno => hholder ▸ h.resolution (hreinit hno), fun hno => ?_⟩
  rw [hholder]
  refine h.complete ?_
  by_contra hyes
  rw [Bool.not_eq_false] at hyes
  exact Bool.false_ne_true (hno.symm.trans (hflag hyes))

/-- Every operation is performed in a faithful state, and the job ends in one. -/
abbrev Guard (w : World K) (s : State K) (_ : List (WorkerEvent K)) (_ : Op K) : Prop :=
  w.Faithful s

abbrev Failure (w : World K) (_ : Exn) (s : State K) (_ : List (WorkerEvent K)) : Prop :=
  w.Faithful s

theorem wp_harmless {p : Worker K α} (hp : p.Uses Harmless) (hP : Keeping P)
    (hfaithful : ∀ s tr, P s tr → w.Faithful s) (h : P s tr) :
    wp (system w.answers) (Guard w) (fun _ => P) (Failure w) p s tr := by
  refine wp_mono (wp_of_uses hp hP.stable h (fun s tr o _ hs => hfaithful s tr hs) ?_)
    (fun _ _ _ hs => hs) fun _ s tr hs => hfaithful s tr hs
  exact fun s tr o r s' ho hs hr => ho.keeps hP hs hr

/-- An operation with what the state or the robot answers. -/
theorem wp_ask {E : Exn → State K → List (WorkerEvent K) → Prop} {o : Op K} (ho : Harmless o)
    (hP : Keeping P) (hfaithful : ∀ s tr, P s tr → w.Faithful s) (h : P s tr) :
    wp (system w.answers) (Guard w)
      (fun r s tr => P s tr ∧ ∃ s₀, s.exploreMapHolder = s₀.exploreMapHolder ∧
        (system w.answers).handle s₀ o r s)
      E (Prog.perform o : Worker K (Ret K o)) s tr := by
  refine wp_perform hP.stable h (fun s tr hs => hfaithful s tr hs) fun s tr r s' hs hr => ?_
  refine ⟨ho.keeps hP hs hr, s, ?_, hr⟩
  have hkeeps : Keeping fun s₁ (_ : List (WorkerEvent K)) =>
      s₁.exploreMapHolder = s.exploreMapHolder := fun _ _ _ _ h hholder _ _ => hholder.trans h
  exact @Harmless.keeps K _ _ _ _ w s s' tr _ o r ho hkeeps rfl hr

theorem wp_readHolder (hP : Keeping P) (hfaithful : ∀ s tr, P s tr → w.Faithful s) (h : P s tr) :
    wp (system w.answers) (Guard w)
      (fun holder s tr => holder = s.exploreMapHolder ∧ P s tr)
      (Failure w) readExploreMapHolder s tr := by
  refine wp_mono (wp_ask (o := .readExploreMapHolder) trivial hP hfaithful h) ?_
    fun _ _ _ hs => hs
  rintro holder s tr ⟨hs, s₀, hholder, hr, -⟩
  exact ⟨hr.trans hholder.symm, hs⟩

/-- A map that is returned is one the robot may answer. -/
theorem wp_fetch (area : RectangleF K) (hP : Keeping P)
    (hfaithful : ∀ s tr, P s tr → w.Faithful s) (h : P s tr) :
    wp (system w.answers) (Guard w)
      (fun hMap s tr => P s tr ∧ ∀ m, hMap = some m →
        w.answers (.getMap area) (.ok (some m) : Except Exn (Map K)))
      (Failure w) (getMapByPltfm area) s tr := by
  apply wp_tryCatch.mpr
  refine wp_seq (wp_ask (o := .getMap area) trivial hP hfaithful h) ?_
  rintro r s tr ⟨hs, s₀, -, hr, -⟩
  cases r with
  | ok hMap =>
      refine ⟨hs, fun m hm => ?_⟩
      rw [← hm]
      exact hr
  | error e =>
      cases e with
      | operationFail => exact ⟨hs, nofun⟩
      | _ => exact hfaithful s tr hs

/-- A call of the holder that fails changes nothing. -/
theorem wp_call {Q : State K → List (WorkerEvent K) → Prop} (call : HolderCall K)
    (hP : Keeping P) (hfaithful : ∀ s tr, P s tr → w.Faithful s) (h : P s tr)
    (hQ : ∀ s tr alloc holder, P s tr → (call.exec alloc).run s.exploreMapHolder = .ok () holder →
      Q { s with exploreMapHolder := holder } (tr ++ [.op (.callExploreMapHolder call) (.ok ())])) :
    wp (system w.answers) (Guard w) (fun _ => Q) (Failure w) (callHolder call) s tr := by
  apply wp_seq (R := fun (r : Except Exn Unit) s tr =>
    match r with | .ok _ => Q s tr | .error _ => w.Faithful s)
  · refine wp_perform hP.stable h (fun s tr hs => hfaithful s tr hs) ?_
    rintro s tr r s' hs ⟨alloc, hrun⟩
    rcases exec_spec (hfaithful s tr hs).reported.inv alloc call with
      ⟨holder, hexec, -⟩ | ⟨e, hexec, -⟩
    · simp only [hexec] at hrun
      obtain ⟨rfl, rfl⟩ := hrun
      exact hQ s tr alloc holder hs hexec
    · simp only [hexec] at hrun
      obtain ⟨rfl, rfl⟩ := hrun
      exact hfaithful s tr hs
  · intro r s tr hr
    cases r with
    | ok u => exact hr
    | error e => exact hr

/-! ## The functions of the worker -/

variable {cells : ℤ → ℤ → Prop} {rect : RectangleI}

theorem keeping_filled : Keeping fun s (_ : List (WorkerEvent K)) =>
    w.Faithful s ∧ w.Filled cells s.exploreMapHolder :=
  fun s s' tr e h hholder hreinit hflag =>
    ⟨keeping_faithful s s' tr e h.1 hholder hreinit hflag, hholder ▸ h.2⟩

theorem harmless_checkRecvResolution (recvResolution : K) :
    (checkRecvResolution recvResolution).Uses Harmless := by
  apply Prog.Uses.bind (Prog.uses_perform (o := Op.readExploreMapHolder) trivial)
  intro holder
  dsimp only
  split_ifs
  · exact Prog.uses_pure _
  · exact (Prog.uses_perform (o := Op.writeShouldReinitMap true) trivial).bind fun _ =>
      Prog.uses_pure _

/-- A rectangle of known cells is written, or nothing is. -/
theorem wp_updateMapInCellIdxRect_filled (hrect : ¬sfIsCellIdxRectEmpty rect)
    (hknown : ∀ x y, sfDoesCellIdxRectContain rect x y → w.Knows x y)
    (h : w.Faithful s ∧ w.Filled cells s.exploreMapHolder) :
    wp (system w.answers) (Guard w)
      (fun ok s _ => w.Faithful s ∧ (ok = true →
        w.Filled (fun x y => cells x y ∨ sfDoesCellIdxRectContain rect x y) s.exploreMapHolder))
      (Failure w) (updateMapInCellIdxRect rect) s tr := by
  apply wp_seq (wp_readHolder keeping_filled (fun _ _ h => h.1) h)
  rintro holder s tr ⟨rfl, h⟩
  have hvalid := h.2.1 ▸ h.1.reported.inv.resolution_valid
  rw [h.2.1, calcArea_eq hvalid]
  apply wp_seq (wp_fetch (cellArea w.resolution rect) keeping_filled (fun _ _ h => h.1) h)
  rintro hMap s tr ⟨h, hanswer⟩
  cases hMap with
  | none => exact ⟨h.1, nofun⟩
  | some m =>
      have hm := (hanswer m rfl m rfl).2 rect hrect (calcArea_eq hvalid rect)
      apply wp_seq (wp_harmless (harmless_checkRecvResolution m.mapResolution.1) keeping_filled
        (fun _ _ h => h.1) h)
      intro ok s tr h
      cases ok with
      | false => exact ⟨h.1, nofun⟩
      | true =>
          apply wp_seq (wp_call (.setMapDataOfMap (some m)) keeping_filled (fun _ _ h => h.1) h
            (Q := fun s _ => w.Faithful s ∧ w.Filled (fun x y => cells x y ∨
              sfDoesCellIdxRectContain rect x y) s.exploreMapHolder) ?_)
          · exact fun _ s tr h => ⟨h.1, fun _ => h.2⟩
          · intro s tr alloc holder h hrun
            rcases setMapDataOfMap_spec h.1.reported.inv alloc m with
              ⟨h', hok, hwritten, -⟩ | ⟨e, herr, -⟩
            · cases hok.symm.trans hrun
              rw [h.2.1, hm.cellIdxRectToUp_eq hvalid] at hwritten
              exact ⟨h.1.write hm hknown hwritten, h.2.write hm hwritten⟩
            · cases herr.symm.trans hrun

/-- The loop of a sync. -/
theorem wp_fetchTiles_filled {rs : List RectangleI} (hrs : ∀ r ∈ rs, ¬sfIsCellIdxRectEmpty r ∧
      ∀ x y, sfDoesCellIdxRectContain r x y → w.Knows x y)
    (h : w.Faithful s ∧ w.Filled cells s.exploreMapHolder) :
    wp (system w.answers) (Guard w)
      (fun ok s _ => w.Faithful s ∧ (ok = true → w.Filled (fun x y => cells x y ∨
        ∃ r ∈ rs, sfDoesCellIdxRectContain r x y) s.exploreMapHolder))
      (Failure w) (fetchTiles rs) s tr := by
  induction rs generalizing cells s tr with
  | nil => exact ⟨h.1, fun _ => h.2.mono fun x y hxy => hxy.resolve_right (by simp)⟩
  | cons r rs ih =>
      obtain ⟨hne, hknown⟩ := hrs r List.mem_cons_self
      apply wp_seq (wp_updateMapInCellIdxRect_filled hne hknown h)
      rintro ok s tr ⟨h, hok⟩
      cases ok with
      | false => exact ⟨h, nofun⟩
      | true =>
          refine wp_mono (ih (fun r' hr' => hrs r' (List.mem_cons_of_mem _ hr')) ⟨h, hok rfl⟩) ?_
            fun _ _ _ h => h
          rintro ok s tr ⟨h, hok⟩
          refine ⟨h, fun hok' => (hok hok').mono fun x y => ?_⟩
          simp [or_assoc]

/-- While a sync runs, it stays requested. -/
def Requested (w : World K) (s : State K) (_ : List (WorkerEvent K)) : Prop :=
  (w.Faithful s ∧ w.Filled (fun _ _ => False) s.exploreMapHolder) ∧ s.syncMapRequested = true

theorem keeping_requested : Keeping (Requested w) :=
  fun s s' tr e h hholder hreinit hflag =>
    ⟨keeping_filled s s' tr e h.1 hholder hreinit hflag, hflag h.2⟩

theorem wp_getKnownArea (hP : Keeping P) (hfaithful : ∀ s tr, P s tr → w.Faithful s)
    (h : P s tr) :
    wp (system w.answers) (Guard w) (fun area s tr => area ∈ w.areas ∧ P s tr) (Failure w)
      getKnownArea s tr := by
  apply wp_seq (wp_ask (o := .getKnownArea) trivial hP hfaithful h)
  rintro r s tr ⟨h, s₀, -, hr, -⟩
  cases r with
  | ok area => exact ⟨hr area rfl, h⟩
  | error e => exact hfaithful s tr h

/-- The holder is emptied, then given the size of the known rectangle. -/
theorem wp_callClear_requested (h : Requested w s tr) :
    wp (system w.answers) (Guard w) (fun _ => Requested w) (Failure w) (callHolder .clear)
      s tr := by
  refine wp_call .clear keeping_requested (fun _ _ h => h.1.1) h ?_
  rintro s tr alloc holder ⟨⟨hs, hfilled⟩, hflag⟩ hrun
  obtain ⟨h', hclear, hres, hexec⟩ := executed_clear hs.reported.inv
  cases hclear
  cases hrun
  have hres' := hres.trans hfilled.1
  exact ⟨⟨faithful_emptied hflag hexec.inv (byteAt_of_empty empty_default) fun _ => hres',
    filled_nothing hres'⟩, hflag⟩

theorem wp_callReserve_requested (known : RectangleI) (h : Requested w s tr) :
    wp (system w.answers) (Guard w) (fun _ => Requested w) (Failure w)
      (callHolder (.reserveByCellIdxRect known)) s tr := by
  refine wp_call (.reserveByCellIdxRect known) keeping_requested (fun _ _ h => h.1.1) h ?_
  rintro s tr alloc holder ⟨⟨hs, hfilled⟩, hflag⟩ hrun
  rcases reserveByCellIdxRect_spec hs.reported.inv alloc known with ⟨h', hok, hgrown, -⟩ | herr
  · cases hok.symm.trans hrun
    exact ⟨⟨hs.grown hgrown, hfilled.grown hgrown⟩, hflag⟩
  · cases herr.symm.trans hrun

theorem wp_syncWholeMap_complete (h : Requested w s tr) :
    wp (system w.answers) (Guard w)
      (fun ok s _ => w.Faithful s ∧ (ok = true → w.Complete s.exploreMapHolder))
      (Failure w) syncWholeMap s tr := by
  have hfaithful : ∀ s tr, Requested w s tr → w.Faithful s := fun _ _ h => h.1.1
  apply wp_seq (wp_mono (wp_ask (o := .getParameter _) trivial keeping_requested hfaithful h)
    (fun _ _ _ h => h.1) fun _ _ _ h => h)
  intro (fVal : K) s tr h
  apply wp_seq (wp_readHolder keeping_requested hfaithful h)
  rintro holder s tr ⟨rfl, h⟩
  dsimp only
  rw [h.1.2.1]
  by_cases honce : 0 < onceMaxCellCntWH fVal w.resolution
  swap
  · rw [boostAssert, if_neg honce]
    exact h.1.1
  rw [boostAssert_of honce]
  apply wp_seq (wp_getKnownArea keeping_requested hfaithful h)
  rintro area s tr ⟨harea, h⟩
  apply wp_seq (wp_readHolder keeping_requested hfaithful h)
  rintro holder s tr ⟨rfl, h⟩
  rw [h.1.2.1]
  cases hknown : sfCalcRoundedCellIdxRect w.resolution area with
  | error e => exact h.1.1
  | ok known =>
      simp only [Prog.ofExcept_ok, Prog.ret_bind]
      split_ifs with hempty
      · exact ⟨h.1.1, fun hok => absurd hok Bool.false_ne_true⟩
      apply wp_seq (wp_callClear_requested h)
      intro _ s tr h
      apply wp_seq (wp_callReserve_requested known h)
      intro _ s tr h
      rw [syncRows_eq_fetchTiles]
      refine wp_mono (wp_fetchTiles_filled (fun r hr => ?_) h.1) ?_ fun _ _ _ h => h
      · exact ⟨(tile_bounds honce hr).1, fun x y hxy => ⟨known, ⟨area, harea, hknown⟩,
          (tiles_cover honce x y).mp ⟨r, hr, hxy⟩⟩⟩
      · rintro ok s tr ⟨h, hfilled⟩
        refine ⟨h, fun hok => ⟨known, ⟨area, harea, hknown⟩, hempty, (hfilled hok).mono ?_⟩⟩
        exact fun x y hxy => Or.inr ((tiles_cover honce x y).mpr hxy)

theorem wp_updateMapNearRobot_faithful
    (h : w.Faithful s ∧ w.Filled (fun _ _ => False) s.exploreMapHolder) :
    wp (system w.answers) (Guard w) (fun _ s _ => w.Faithful s) (Failure w)
      updateMapNearRobot s tr := by
  have hkeeping : Keeping fun s (_ : List (WorkerEvent K)) =>
      w.Faithful s ∧ w.Filled (fun _ _ => False) s.exploreMapHolder := keeping_filled
  have hfaithful : ∀ s (_ : List (WorkerEvent K)),
      w.Faithful s ∧ w.Filled (fun _ _ => False) s.exploreMapHolder → w.Faithful s :=
    fun _ _ h => h.1
  apply wp_seq (wp_mono (wp_ask (o := .getParameter _) trivial hkeeping hfaithful h)
    (fun _ _ _ h => h.1) fun _ _ _ h => h)
  intro (fVal : K) s tr h
  apply wp_seq (wp_mono (wp_ask (o := .readRobotPose) trivial hkeeping hfaithful h)
    (fun _ _ _ h => h.1) fun _ _ _ h => h)
  intro robotPose s tr h
  apply wp_seq (wp_readHolder hkeeping hfaithful h)
  rintro holder s tr ⟨rfl, h⟩
  have hres := h.2.1
  cases sfCalcMinBoundingCellIdxRect s.exploreMapHolder.resolution
      (nearRobotArea fVal robotPose) with
  | error e => exact h.1
  | ok nearRobotIdxRect =>
      apply wp_seq (wp_getKnownArea hkeeping hfaithful h)
      rintro area s tr ⟨harea, h⟩
      rw [hres]
      cases hknown : sfCalcRoundedCellIdxRect w.resolution area with
      | error e => exact h.1
      | ok known =>
          simp only [Prog.ofExcept_ok, Prog.ret_bind]
          split_ifs with hempty hreq
          · exact wp_seq (wp_mono (wp_ask (o := .requestSyncMap) trivial hkeeping hfaithful h)
              (fun _ _ _ h => h.1) fun _ _ _ h => h) fun _ _ _ h => h.1
          · exact h.1
          · refine wp_mono (wp_updateMapInCellIdxRect_filled hreq (fun x y hxy => ?_) h)
              (fun _ _ _ h => h.1) fun _ _ _ h => h
            exact ⟨known, ⟨area, harea, hknown⟩, (contain_intersection_iff.mp hxy).2⟩

/-- After a reinit the holder has the resolution of the robot's map. -/
theorem wp_checkToReinitMap_faithful (h : w.Faithful s) :
    wp (system w.answers) (Guard w)
      (fun ok s _ => w.Faithful s ∧ (ok = true →
        w.Filled (fun _ _ => False) s.exploreMapHolder))
      (Failure w) checkToReinitMap s tr := by
  have hrequested : Keeping fun s (_ : List (WorkerEvent K)) =>
      w.Faithful s ∧ s.syncMapRequested = true :=
    fun s s' tr e h hholder hreinit hflag =>
      ⟨keeping_faithful s s' tr e h.1 hholder hreinit hflag, hflag h.2⟩
  apply wp_seq (wp_ask (o := .readShouldReinitMap) trivial keeping_faithful (fun _ _ h => h) h)
  rintro shouldReinitMap s tr ⟨h, s₀, -, hread, rfl⟩
  cases shouldReinitMap with
  | false => exact ⟨h, fun _ => filled_nothing (h.resolution hread.symm)⟩
  | true =>
      apply wp_seq (R := fun _ s (_ : List (WorkerEvent K)) =>
        w.Faithful s ∧ s.syncMapRequested = true)
      · refine wp_mono (wp_ask (o := .storeSyncMapRequested true) trivial keeping_faithful
          (fun _ _ h => h) h) ?_ fun _ _ _ h => h
        rintro _ s tr ⟨h, s₀, -, rfl⟩
        exact ⟨h, rfl⟩
      intro _ s tr h
      apply wp_seq (wp_fetch reinitArea hrequested (fun _ _ h => h.1) h)
      rintro hMap s tr ⟨h, hanswer⟩
      cases hMap with
      | none => exact ⟨h.1, nofun⟩
      | some m =>
          have hm := (hanswer m rfl m rfl).1
          apply wp_seq (wp_call (.reinit m.mapResolution.1) hrequested (fun _ _ h => h.1) h
            (Q := fun s _ => w.Faithful s ∧ w.Filled (fun _ _ => False) s.exploreMapHolder) ?_)
          · intro _ s tr h
            apply wp_seq (R := fun _ s (_ : List (WorkerEvent K)) =>
              w.Faithful s ∧ w.Filled (fun _ _ => False) s.exploreMapHolder)
            · refine wp_perform keeping_filled.stable h (fun _ _ h => h.1) ?_
              rintro s tr r s' ⟨hs, hfilled⟩ rfl
              exact ⟨⟨hs.reported, fun _ => hfilled.1, hs.complete⟩, hfilled⟩
            · exact fun _ s tr h => ⟨h.1, fun _ => h.2⟩
          · rintro s tr alloc holder ⟨hs, hflag⟩ hrun
            rcases executed_reinit hs.reported.inv m.mapResolution.1 with
              ⟨h', hok, hres, hexec⟩ | ⟨what, herr⟩
            · cases hok.symm.trans hrun
              have hres' := hres.trans hm
              refine ⟨faithful_emptied hflag hexec.inv ?_ fun _ => hres', filled_nothing hres'⟩
              exact fun x y => (hexec.refines ⟨_, fun x y => some (byteAt _ x y)⟩
                ⟨rfl, fun _ _ => rfl⟩).byteAt_eq x y
            · cases herr.symm.trans hrun

theorem wp_doPerform_faithful (h : w.Faithful s) :
    wp (system w.answers) (Guard w) (fun _ s _ => w.Faithful s) (Failure w) doPerform s tr := by
  apply wp_seq (wp_checkToReinitMap_faithful h)
  rintro ok s tr ⟨h, hok⟩
  split_ifs with hfailed
  · exact h
  have hready := hok (by simpa using hfailed)
  apply wp_seq (wp_ask (o := .loadSyncMapRequested) trivial keeping_filled (fun _ _ h => h.1)
    ⟨h, hready⟩)
  rintro syncMapRequested s tr ⟨h, s₀, -, hflag, rfl⟩
  split_ifs with hsync
  · apply wp_seq (wp_syncWholeMap_complete ⟨h, hflag.symm.trans hsync⟩)
    rintro done s tr ⟨h, hdone⟩
    split_ifs with hdone'
    · have hcomplete : Keeping fun s (_ : List (WorkerEvent K)) =>
          w.Faithful s ∧ w.Complete s.exploreMapHolder :=
        fun s s' tr e h hholder hreinit hflag =>
          ⟨keeping_faithful s s' tr e h.1 hholder hreinit hflag, hholder ▸ h.2⟩
      apply wp_seq (R := fun _ s (_ : List (WorkerEvent K)) => w.Faithful s)
      · refine wp_perform hcomplete.stable ⟨h, hdone hdone'⟩ (fun _ _ h => h.1) ?_
        rintro s tr r s' ⟨hs, hholder⟩ rfl
        exact ⟨hs.reported, hs.resolution, fun _ => hholder⟩
      · exact fun _ _ _ h => h
    · exact h
  · exact wp_seq (wp_updateMapNearRobot_faithful h) fun _ _ _ h => h

theorem wp_job_faithful (j : Job) (h : w.Faithful s) :
    wp (system w.answers) (Guard w) (fun _ s _ => w.Faithful s) (Failure w) (job j) s tr := by
  cases j with
  | doPerform => exact wp_doPerform_faithful h
  | reinitWorkLoop =>
      refine wp_harmless ?_ keeping_faithful (fun _ _ h => h) h
      exact ⟨trivial, fun _ => ⟨trivial, fun _ => ⟨trivial, fun _ => ⟨trivial, fun _ => trivial⟩⟩⟩⟩

end Wp

/-! ## Runs -/

section Runs

variable {w : World K} {c : WorkerConfig K}

theorem faithful_init (w : World K) : w.Faithful State.init where
  reported := reported_new w
  resolution := nofun
  complete := nofun

theorem faithful_reachable (h : Reachable (system w.answers) job WorkerConfig.init c) :
    w.Faithful c.state := by
  have hstable : Stable (system w.answers) fun s (_ : List (WorkerEvent K)) => w.Faithful s :=
    keeping_faithful.stable
  have hinit : wp (system w.answers) (Guard w) (fun _ s _ => w.Faithful s) (Failure w)
      (WorkerConfig.init : WorkerConfig K).prog State.init [] := faithful_init w
  refine wp_reachable_imp (I := fun s _ => w.Faithful s) (fun _ _ _ h => h) (fun _ _ _ h => h)
    (fun _ _ _ h => h) (wp_reachable (fun _ => hstable) (fun _ => hstable) ?_ hinit h)
  rintro j s tr (⟨a, h⟩ | ⟨e, h⟩)
  · exact wp_job_faithful j h
  · exact wp_job_faithful j h

/-- A robot that has seen 5 times 4 obstacles. -/
def fixedWorld : World ℚ where
  resolution := 4
  bytes _ _ := {200}
  areas := {⟨0, 0, 20, 16⟩}

theorem fixedAnswer_world (o : Op ℚ) : fixedWorld.answers o (fixedAnswer o) := by
  have hexact := fixedAnswer_exact o
  cases o with
  | getKnownArea => exact fun area harea => hexact area harea
  | getMap area =>
      intro m hm
      refine ⟨?_, fun rect hrect harea => ⟨hexact m rect hm hrect harea, fun x y hxy b hb => ?_⟩⟩
      · cases hm
        rfl
      · cases hm
        simp only [ofList] at hb
        split_ifs at hb
        exact List.eq_of_mem_replicate (List.mem_of_getElem? hb)
  | _ => trivial

theorem fixedWorld_knownRect {known : RectangleI} (h : fixedWorld.KnownRect known) :
    known = ⟨0, 0, 5, 4⟩ := by
  obtain ⟨area, rfl, hround⟩ := h
  have hcells : (sfCalcRoundedCellIdxRect (4 : ℚ) ⟨0, 0, 20, 16⟩).toOption =
    some ⟨0, 0, 5, 4⟩ := by decide +kernel
  rw [show sfCalcRoundedCellIdxRect (4 : ℚ) ⟨0, 0, 20, 16⟩ = .ok known from hround] at hcells
  exact Option.some.inj hcells

end Runs

end Ros2WsDemo.ServerExploreMapUpdateWorker

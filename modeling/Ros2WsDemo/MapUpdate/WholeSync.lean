import Ros2WsDemo.MapHolder.RectAlgebra
import Ros2WsDemo.MapUpdate.SyncRequest

/-!
# A whole-map sync

With a platform that answers exactly what it is asked for, a sync that succeeds
leaves the known area in the holder and nothing else.  The tiles already written
are the loop invariant: they make up the valid rectangle, and since no tile
touches an earlier one each keeps its bytes.
-/

namespace Ros2WsDemo.ServerExploreMapUpdateWorker

open Effect ServerMapHolder StridedCopy

/-! ## Fetches -/

section Fetches

variable {F J : Type}

def mapFetch : Event (Ret F) Act J → Option (RectangleF F × Except Exn (Map F))
  | .op (.getMap area) (r : Except Exn (Map F)) => some (area, r)
  | _ => none

/-- The areas asked for, with the answers. -/
def mapFetches (tr : List (Event (Ret F) Act J)) : List (RectangleF F × Except Exn (Map F)) :=
  tr.filterMap mapFetch

theorem mapFetches_snoc (tr : List (Event (Ret F) Act J)) {e : Event (Ret F) Act J}
    (he : mapFetch e = none) : mapFetches (tr ++ [e]) = mapFetches tr := by
  simp [mapFetches, he]

theorem mapFetches_snoc_getMap (tr : List (Event (Ret F) Act J)) (area : RectangleF F)
    (r : Except Exn (Map F)) :
    mapFetches (tr ++ [.op (.getMap area) r]) = mapFetches tr ++ [(area, r)] := by
  simp [mapFetches, mapFetch]

/-- Operations that neither fetch a map nor touch the holder. -/
def Idle : Op F → Prop
  | .callExploreMapHolder _ => False
  | .getMap _ => False
  | _ => True

theorem Idle.mapFetch_eq {o : Op F} (ho : Idle o) (r : Ret F o) :
    mapFetch (.op o r : Event (Ret F) Act J) = none := by
  cases o with
  | getMap area => exact ho.elim
  | _ => rfl

theorem Idle.holder_eq [FloatArith F] {answers : (o : Op F) → Ret F o → Prop} {s s' : State F}
    {o : Op F} {r : Ret F o} (ho : Idle o) (h : (system answers).handle s o r s') :
    s'.exploreMapHolder = s.exploreMapHolder := by
  cases o with
  | callExploreMapHolder call => exact ho.elim
  | getMap area => exact ho.elim
  | writeIsWorkLoopInitOk b => cases h; rfl
  | writeShouldReinitMap b => cases h; rfl
  | storeSyncMapRequested b => cases h; rfl
  | requestSyncMap => cases h; rfl
  | readShouldReinitMap => exact congrArg _ h.2
  | loadSyncMapRequested => exact congrArg _ h.2
  | readExploreMapHolder => exact congrArg _ h.2
  | readRobotPose => exact congrArg _ h.2
  | getParameter name => exact congrArg _ h.2
  | getKnownArea => exact congrArg _ h.2

theorem idle_checkRecvResolution [FloatArith F] (recvResolution : F) :
    (checkRecvResolution recvResolution).Uses Idle := by
  apply Prog.Uses.bind (Prog.uses_perform (o := Op.readExploreMapHolder) trivial)
  intro holder
  dsimp only
  split_ifs
  · exact Prog.uses_pure _
  · exact (Prog.uses_perform (o := Op.writeShouldReinitMap true) trivial).bind fun _ =>
      Prog.uses_pure _

end Fetches

/-! ## An exact platform -/

variable {K J : Type} [Field K] [LinearOrder K] [IsStrictOrderedRing K] [FloorRing K]

/-- The map consists of exactly the cells of `rect`. -/
structure CoversExactly (resolution : K) (rect : RectangleI) (m : MapData K) : Prop where
  position : m.mapPosition = (resolution * rect.x, resolution * rect.y)
  dimension : m.mapDimension = (rect.width, rect.height)
  resolution : m.mapResolution = (resolution, resolution)
  size : (m.mapData.length : ℤ) = rect.width * rect.height

/-- The platform may fail, but when it answers then exactly, for one known area. -/
def exactPlatform (resolution fVal : K) (knownArea : RectangleF K) : (o : Op K) → Ret K o → Prop
  | .getParameter _, (r : K) => r = fVal
  | .getKnownArea, (r : Except Exn (RectangleF K)) => ∀ area, r = .ok area → area = knownArea
  | .getMap area, (r : Except Exn (Map K)) => ∀ m rect, r = .ok (some m) →
      ¬sfIsCellIdxRectEmpty rect → sfCalcAreaByCellIdxRect resolution rect = .ok area →
        CoversExactly resolution rect m
  | _, _ => True

/-- In exact arithmetic the cells written are the cells asked for. -/
theorem CoversExactly.cellIdxRectToUp_eq {resolution : K} {rect : RectangleI} {m : MapData K}
    (hm : CoversExactly resolution rect m)
    (hres : FloatArith.lt FloatArith.epsilon resolution = true) :
    cellIdxRectToUp resolution m.mapPosition.1 m.mapPosition.2 m.mapDimension.1 m.mapDimension.2 =
      rect := by
  have hpos := exact_pos hres
  have hcell : ∀ n : ℤ, FloatArith.round (FloatArith.div (resolution * n) resolution) = n := by
    intro n
    change roundHalfAway (resolution * n / resolution) = n
    rw [mul_div_cancel_left₀ _ hpos.ne', roundHalfAway_intCast]
  simp only [cellIdxRectToUp, hm.position, hm.dimension, hcell]

/-! ## The loop -/

/-- The tiles of `done` have been fetched and written since the holder was
cleared; `pending` has been fetched only. -/
structure TilesWritten (resolution : K) (done : List (RectangleI × MapData K))
    (pending : List (RectangleF K × Except Exn (Map K))) (s : State K)
    (tr : List (Event (Ret K) Act J)) : Prop where
  inv : Inv s.exploreMapHolder
  resolution_eq : s.exploreMapHolder.resolution = resolution
  valid_eq : s.exploreMapHolder.validCellIdxRect = (done.map Prod.fst).foldl mergedRect {}
  fetches_eq : mapFetches tr =
    done.map (fun p => (cellArea resolution p.1, .ok (some p.2))) ++ pending
  covers : ∀ p ∈ done, CoversExactly resolution p.1 p.2
  byteAt_eq : ∀ p ∈ done, ∀ x y, sfDoesCellIdxRectContain p.1 x y →
    byteAt s.exploreMapHolder x y = (ofList p.2.mapData (cellOffset p.1 x y)).getD 0

/-- The holder keeps its resolution, and nothing has been fetched. -/
structure NoTiles (resolution : K) (s : State K) (tr : List (Event (Ret K) Act J)) : Prop where
  inv : Inv s.exploreMapHolder
  resolution_eq : s.exploreMapHolder.resolution = resolution
  fetches_eq : mapFetches tr = []

/-- Only the holder and the fetches matter. -/
def HolderOnly (P : State K → List (Event (Ret K) Act J) → Prop) : Prop :=
  ∀ s s' tr e, P s tr → s'.exploreMapHolder = s.exploreMapHolder → mapFetch e = none →
    P s' (tr ++ [e])

section Loop

variable {resolution fVal : K} {knownArea : RectangleF K}
  {done : List (RectangleI × MapData K)} {pending : List (RectangleF K × Except Exn (Map K))}
  {s s' : State K} {tr : List (Event (Ret K) Act J)} {r : RectangleI} {m : MapData K}

theorem TilesWritten.of_eq (h : TilesWritten resolution done pending s tr)
    {e : Event (Ret K) Act J} (hholder : s'.exploreMapHolder = s.exploreMapHolder)
    (he : mapFetch e = none) : TilesWritten resolution done pending s' (tr ++ [e]) where
  inv := hholder ▸ h.inv
  resolution_eq := hholder ▸ h.resolution_eq
  valid_eq := hholder ▸ h.valid_eq
  fetches_eq := (mapFetches_snoc tr he).trans h.fetches_eq
  covers := h.covers
  byteAt_eq := hholder ▸ h.byteAt_eq

theorem TilesWritten.fetch (h : TilesWritten resolution done [] s tr) (area : RectangleF K)
    (ans : Except Exn (Map K)) :
    TilesWritten resolution done [(area, ans)] s (tr ++ [.op (.getMap area) ans]) where
  inv := h.inv
  resolution_eq := h.resolution_eq
  valid_eq := h.valid_eq
  fetches_eq := by rw [mapFetches_snoc_getMap, h.fetches_eq, List.append_nil]
  covers := h.covers
  byteAt_eq := h.byteAt_eq

/-- Writing the fetched tile leaves the earlier ones as they are. -/
theorem TilesWritten.write
    (h : TilesWritten resolution done [(cellArea resolution r, .ok (some m))] s tr)
    (hm : CoversExactly resolution r m)
    (hdisj : ∀ p ∈ done, ∀ x y, ¬(sfDoesCellIdxRectContain p.1 x y ∧
      sfDoesCellIdxRectContain r x y))
    (hwritten : WrittenTo r (ofList m.mapData) s.exploreMapHolder s'.exploreMapHolder)
    {e : Event (Ret K) Act J} (he : mapFetch e = none) :
    TilesWritten resolution (done ++ [(r, m)]) [] s' (tr ++ [e]) where
  inv := hwritten.inv
  resolution_eq := hwritten.resolution_eq.trans h.resolution_eq
  valid_eq := by
    rw [hwritten.valid_eq, h.valid_eq, List.map_append, List.foldl_append]
    rfl
  fetches_eq := by
    rw [mapFetches_snoc tr he, h.fetches_eq, List.map_append, List.append_nil]
    rfl
  covers := by
    intro p hp
    rcases List.mem_append.mp hp with hp | hp
    · exact h.covers p hp
    · rw [List.mem_singleton.mp hp]
      exact hm
  byteAt_eq := by
    intro p hp x y hxy
    rw [hwritten.byteAt_eq]
    rcases List.mem_append.mp hp with hp | hp
    · rw [if_neg fun hr => hdisj p hp x y ⟨hxy, hr⟩]
      exact h.byteAt_eq p hp x y hxy
    · rw [List.mem_singleton.mp hp] at hxy ⊢
      rw [if_pos hxy]

theorem holderOnly_tilesWritten :
    HolderOnly fun s (tr : List (Event (Ret K) Act J)) =>
      TilesWritten resolution done pending s tr :=
  fun _ _ _ _ h hholder he => h.of_eq hholder he

theorem holderOnly_noTiles :
    HolderOnly fun s (tr : List (Event (Ret K) Act J)) => NoTiles resolution s tr := by
  rintro s s' tr e ⟨hI, hres, hnil⟩ hholder he
  exact ⟨hholder ▸ hI, hholder ▸ hres, (mapFetches_snoc tr he).trans hnil⟩

variable {P : State K → List (Event (Ret K) Act J) → Prop} {answers : (o : Op K) → Ret K o → Prop}

theorem HolderOnly.stable (hP : HolderOnly P) : Stable (system answers) P := by
  intro s tr a s' h hact
  cases hact
  exact hP s _ tr _ h rfl rfl

theorem wp_idle (hP : HolderOnly P) {α : Type} {p : Worker K α} (hp : p.Uses Idle) (h : P s tr) :
    wp (system answers) (fun _ _ _ => True) (fun _ => P) (fun _ _ _ => True) p s tr := by
  refine wp_mono (wp_of_uses hp hP.stable h (fun _ _ _ _ _ => trivial) ?_)
    (fun _ _ _ h => h) fun _ _ _ _ => trivial
  exact fun s tr _ r s' ho h hr => hP s s' tr _ h (ho.holder_eq hr) (ho.mapFetch_eq r)

/-- An idle operation, with what the platform or the state answers. -/
theorem wp_idle_answer (hP : HolderOnly P) {o : Op K} (ho : Idle o) (h : P s tr) :
    wp (system answers) (fun _ _ _ => True)
      (fun r s tr => P s tr ∧ ∃ s₀, s₀.exploreMapHolder = s.exploreMapHolder ∧
        (system answers).handle s₀ o r s)
      (fun _ _ _ => True) (Prog.perform o : Worker K (Ret K o)) s tr := by
  apply wp_perform (o := o) hP.stable h
  · exact fun _ _ _ => trivial
  · intro s tr r s' h hr
    exact ⟨hP s s' tr _ h (ho.holder_eq hr) (ho.mapFetch_eq r), s, (ho.holder_eq hr).symm, hr⟩

theorem wp_readExploreMapHolder (hP : HolderOnly P) (h : P s tr) :
    wp (system answers) (fun _ _ _ => True)
      (fun holder s tr => holder = s.exploreMapHolder ∧ P s tr)
      (fun _ _ _ => True) readExploreMapHolder s tr := by
  refine wp_mono (wp_idle_answer hP (o := .readExploreMapHolder) trivial h) ?_ fun _ _ _ h => h
  rintro holder s tr ⟨h, s₀, hholder, hr, -⟩
  exact ⟨hr.trans hholder, h⟩

/-- A fetch, when it returns a map. -/
theorem wp_getMapByPltfm_of {Q : MapData K → State K → List (Event (Ret K) Act J) → Prop}
    (area : RectangleF K) (hP : HolderOnly P) (h : P s tr)
    (hQ : ∀ s tr m, P s tr → answers (.getMap area) (.ok (some m) : Except Exn (Map K)) →
      Q m s (tr ++ [.op (.getMap area) (.ok (some m) : Except Exn (Map K))])) :
    wp (system answers) (fun _ _ _ => True) (fun hMap s tr => ∀ m, hMap = some m → Q m s tr)
      (fun _ _ _ => True) (getMapByPltfm area) s tr := by
  apply wp_tryCatch.mpr
  apply wp_seq (R := fun (ans : Except Exn (Map K)) s tr => ∀ m, ans = .ok (some m) → Q m s tr)
  · apply wp_perform (o := Op.getMap area) hP.stable h
    · exact fun _ _ _ => trivial
    · rintro s tr ans s' h ⟨hanswer, rfl⟩ m rfl
      exact hQ s' tr m h hanswer
  · intro ans s tr h
    cases ans with
    | ok hMap => exact fun m hm => h m (congrArg _ hm)
    | error e => cases e <;> first | trivial | exact nofun

/-- A map that is returned covers the tile it was fetched for. -/
theorem wp_getMapByPltfm (hr : ¬sfIsCellIdxRectEmpty r)
    (h : TilesWritten resolution done [] s tr) :
    wp (system (exactPlatform resolution fVal knownArea)) (fun _ _ _ => True)
      (fun hMap s tr => ∀ m, hMap = some m → CoversExactly resolution r m ∧
        TilesWritten resolution done [(cellArea resolution r, .ok (some m))] s tr)
      (fun _ _ _ => True) (getMapByPltfm (cellArea resolution r)) s tr := by
  have hvalid := h.resolution_eq ▸ h.inv.resolution_valid
  refine wp_getMapByPltfm_of _ holderOnly_tilesWritten h fun s tr m h hanswer => ?_
  exact ⟨hanswer m r rfl hr (calcArea_eq hvalid r), h.fetch _ _⟩

/-- A call of the holder, when it succeeds. -/
theorem wp_callHolder_ok {Q : State K → List (Event (Ret K) Act J) → Prop} (call : HolderCall K)
    (hP : HolderOnly P) (h : P s tr)
    (hQ : ∀ s tr alloc holder, P s tr →
      (call.exec alloc).run s.exploreMapHolder = .ok () holder →
      Q { s with exploreMapHolder := holder } (tr ++ [.op (.callExploreMapHolder call) (.ok ())])) :
    wp (system answers) (fun _ _ _ => True) (fun _ => Q) (fun _ _ _ => True)
      (callHolder call) s tr := by
  apply wp_seq (R := fun (ans : Except Exn Unit) s tr => ans = .ok () → Q s tr)
  · apply wp_perform (o := Op.callExploreMapHolder call) hP.stable h
    · exact fun _ _ _ => trivial
    · rintro s tr ans s' h ⟨alloc, hrun⟩ rfl
      cases hexec : (call.exec alloc).run s.exploreMapHolder with
      | ok u holder =>
          simp only [hexec] at hrun
          obtain ⟨-, rfl⟩ := hrun
          exact hQ s tr alloc holder h hexec
      | error e holder =>
          simp only [hexec] at hrun
          cases hrun.1
  · intro ans s tr h
    cases ans with
    | ok _ => exact h rfl
    | error e => trivial

theorem wp_callSetMapData (hm : CoversExactly resolution r m)
    (hdisj : ∀ p ∈ done, ∀ x y, ¬(sfDoesCellIdxRectContain p.1 x y ∧
      sfDoesCellIdxRectContain r x y))
    (h : TilesWritten resolution done [(cellArea resolution r, .ok (some m))] s tr) :
    wp (system answers) (fun _ _ _ => True)
      (fun _ => TilesWritten resolution (done ++ [(r, m)]) [])
      (fun _ _ _ => True) (callHolder (.setMapDataOfMap (some m))) s tr := by
  refine wp_callHolder_ok _ holderOnly_tilesWritten h fun s tr alloc holder h hrun => ?_
  rcases setMapDataOfMap_spec h.inv alloc m with ⟨h', hok, hwritten, -⟩ | ⟨e, herr, -⟩
  · cases hok.symm.trans hrun
    have hrect := hm.cellIdxRectToUp_eq (h.resolution_eq ▸ h.inv.resolution_valid)
    rw [h.resolution_eq, hrect] at hwritten
    exact h.write hm hdisj hwritten rfl
  · cases herr.symm.trans hrun

theorem wp_updateMapInCellIdxRect_exact (hr : ¬sfIsCellIdxRectEmpty r)
    (hdisj : ∀ p ∈ done, ∀ x y, ¬(sfDoesCellIdxRectContain p.1 x y ∧
      sfDoesCellIdxRectContain r x y))
    (h : TilesWritten resolution done [] s tr) :
    wp (system (exactPlatform resolution fVal knownArea)) (fun _ _ _ => True)
      (fun ok s tr => ok = true → ∃ m, TilesWritten resolution (done ++ [(r, m)]) [] s tr)
      (fun _ _ _ => True) (updateMapInCellIdxRect r) s tr := by
  apply wp_seq (wp_readExploreMapHolder holderOnly_tilesWritten h)
  rintro holder s tr ⟨rfl, h⟩
  rw [calcArea_eq h.inv.resolution_valid, h.resolution_eq]
  apply wp_seq (wp_getMapByPltfm hr h)
  intro hMap s tr hfetched
  cases hMap with
  | none => exact nofun
  | some m =>
      obtain ⟨hm, h⟩ := hfetched m rfl
      apply wp_seq (wp_idle holderOnly_tilesWritten (idle_checkRecvResolution m.mapResolution.1) h)
      intro ok s tr h
      cases ok with
      | false => exact nofun
      | true =>
          apply wp_seq (wp_callSetMapData hm hdisj h)
          exact fun _ s tr h _ => ⟨m, h⟩

/-- The loop of a sync, over tiles that do not overlap. -/
theorem wp_fetchTiles_exact {rs : List RectangleI} (hrs : ∀ r ∈ rs, ¬sfIsCellIdxRectEmpty r)
    (hdisj : (done.map Prod.fst ++ rs).Pairwise fun t t' => ∀ x y,
      ¬(sfDoesCellIdxRectContain t x y ∧ sfDoesCellIdxRectContain t' x y))
    (h : TilesWritten resolution done [] s tr) :
    wp (system (exactPlatform resolution fVal knownArea)) (fun _ _ _ => True)
      (fun ok s tr => ok = true → ∃ done', done'.map Prod.fst = done.map Prod.fst ++ rs ∧
        TilesWritten resolution done' [] s tr)
      (fun _ _ _ => True) (fetchTiles rs) s tr := by
  induction rs generalizing done s tr with
  | nil => exact fun _ => ⟨done, (List.append_nil _).symm, h⟩
  | cons r rs ih =>
      have hnew : ∀ p ∈ done, ∀ x y, ¬(sfDoesCellIdxRectContain p.1 x y ∧
          sfDoesCellIdxRectContain r x y) := fun p hp =>
        (List.pairwise_append.mp hdisj).2.2 p.1 (List.mem_map_of_mem hp) r List.mem_cons_self
      apply wp_seq (wp_updateMapInCellIdxRect_exact (hrs r List.mem_cons_self) hnew h)
      intro ok s tr hok
      cases ok with
      | false => exact nofun
      | true =>
          obtain ⟨m, h⟩ := hok rfl
          have hmap : (done ++ [(r, m)]).map Prod.fst ++ rs = done.map Prod.fst ++ r :: rs := by
            simp
          rw [← hmap] at hdisj ⊢
          exact ih (fun r' hr' => hrs r' (List.mem_cons_of_mem _ hr')) hdisj h

theorem wp_callClear (h : NoTiles resolution s tr) :
    wp (system answers) (fun _ _ _ => True) (fun _ => TilesWritten resolution [] [])
      (fun _ _ _ => True) (callHolder .clear) s tr := by
  refine wp_callHolder_ok _ holderOnly_noTiles h fun s tr alloc holder h hrun => ?_
  obtain ⟨h', hclear, hres, hexec⟩ := executed_clear h.inv
  cases hclear
  cases hrun
  refine ⟨hexec.inv, hres.trans h.resolution_eq, rfl, ?_, nofun, nofun⟩
  rw [mapFetches_snoc tr rfl, h.fetches_eq]
  rfl

theorem wp_callReserve (known : RectangleI) (h : TilesWritten resolution [] [] s tr) :
    wp (system answers) (fun _ _ _ => True) (fun _ => TilesWritten resolution [] [])
      (fun _ _ _ => True) (callHolder (.reserveByCellIdxRect known)) s tr := by
  refine wp_callHolder_ok _ holderOnly_tilesWritten h fun s tr alloc holder h hrun => ?_
  rcases reserveByCellIdxRect_spec h.inv alloc known with ⟨h', hok, hgrown, -⟩ | herr
  · cases hok.symm.trans hrun
    exact ⟨hgrown.inv, hgrown.resolution_eq.trans h.resolution_eq,
      hgrown.valid_eq.trans h.valid_eq, (mapFetches_snoc tr rfl).trans h.fetches_eq,
      nofun, nofun⟩
  · cases herr.symm.trans hrun

/-- The holder after a sync: every tile of the known rectangle fetched and written. -/
def Synced (resolution fVal : K) (knownArea : RectangleF K) (s : State K)
    (tr : List (Event (Ret K) Act J)) : Prop :=
  ∃ known done, sfCalcRoundedCellIdxRect resolution knownArea = .ok known ∧
    ¬sfIsCellIdxRectEmpty known ∧ 0 < onceMaxCellCntWH fVal resolution ∧
    done.map Prod.fst = tiles (onceMaxCellCntWH fVal resolution) known ∧
    TilesWritten resolution done [] s tr

theorem wp_syncWholeMap_exact (h : NoTiles resolution s tr) :
    wp (system (exactPlatform resolution fVal knownArea)) (fun _ _ _ => True)
      (fun ok s tr => ok = true → Synced resolution fVal knownArea s tr)
      (fun _ _ _ => True) syncWholeMap s tr := by
  apply wp_seq (wp_idle_answer holderOnly_noTiles (o := .getParameter _) trivial h)
  rintro v s tr ⟨h, s₀, -, hv, -⟩
  rw [show v = fVal from hv]
  apply wp_seq (wp_readExploreMapHolder holderOnly_noTiles h)
  rintro holder s tr ⟨rfl, h⟩
  dsimp only
  rw [h.resolution_eq]
  by_cases honce : 0 < onceMaxCellCntWH fVal resolution
  swap
  · rw [boostAssert, if_neg honce]
    trivial
  rw [boostAssert_of honce]
  apply wp_seq (R := fun area s tr => area = knownArea ∧ NoTiles resolution s tr)
  · apply wp_seq (wp_idle_answer holderOnly_noTiles (o := .getKnownArea) trivial h)
    rintro ans s tr ⟨h, s₀, -, hans, -⟩
    cases ans with
    | ok area => exact ⟨hans area rfl, h⟩
    | error e => trivial
  rintro area s tr ⟨rfl, h⟩
  apply wp_seq (wp_readExploreMapHolder holderOnly_noTiles h)
  rintro holder s tr ⟨rfl, h⟩
  rw [h.resolution_eq]
  cases hknown : sfCalcRoundedCellIdxRect resolution area with
  | error e => trivial
  | ok known =>
      simp only [Prog.ofExcept_ok, Prog.ret_bind]
      split_ifs with hempty
      · exact fun hok => absurd hok Bool.false_ne_true
      apply wp_seq (wp_callClear h)
      intro _ s tr h
      apply wp_seq (wp_callReserve known h)
      intro _ s tr h
      rw [syncRows_eq_fetchTiles]
      refine wp_mono (wp_fetchTiles_exact ?_ ?_ h) ?_ fun _ _ _ h => h
      · exact fun r hr => (tile_bounds honce hr).1
      · exact tiles_disjoint honce
      · intro ok s tr hdone hok
        obtain ⟨done, hdone, h⟩ := hdone hok
        exact ⟨known, done, hknown, hempty, honce, hdone, h⟩

/-! ## The holder after a sync -/

theorem Synced.valid_eq {known : RectangleI} {once : ℤ} (honce : 0 < once)
    (hknown : ¬sfIsCellIdxRectEmpty known) (hdone : done.map Prod.fst = tiles once known)
    (h : TilesWritten resolution done [] s tr) :
    s.exploreMapHolder.validCellIdxRect = known := by
  rw [h.valid_eq, hdone]
  refine foldl_merge_eq hknown ?_ fun x y => (tiles_cover honce x y).mpr
  intro t ht
  obtain ⟨hne, -, -, hwithin⟩ := tile_bounds honce ht
  exact ⟨hne, hwithin⟩

/-- The byte stored for a fetched cell. -/
theorem TilesWritten.stored (h : TilesWritten resolution done [] s tr)
    {p : RectangleI × MapData K} (hp : p ∈ done) {x y : ℤ}
    (hxy : sfDoesCellIdxRectContain p.1 x y)
    (hvalid : sfDoesCellIdxRectContain s.exploreMapHolder.validCellIdxRect x y) :
    ∃ b, ofList p.2.mapData (cellOffset p.1 x y) = some b ∧
      ofList s.exploreMapHolder.mapDat
        (cellOffset s.exploreMapHolder.availCellIdxRect x y) = some b := by
  obtain ⟨b, hb⟩ := Option.isSome_iff_exists.mp
    (ofList_isSome_of_contain (h.covers p hp).size.ge hxy)
  have hbyte := h.byteAt_eq p hp x y hxy
  rw [hb, Option.getD_some] at hbyte
  exact ⟨b, hb, hbyte ▸ h.inv.stored (h.inv.contain_avail hvalid)⟩

theorem unknown_of_not_valid {h : ServerMapHolder K} (hI : Inv h) {req : RectangleI} {x y : ℤ}
    (hxy : sfDoesCellIdxRectContain req x y)
    (hvalid : ¬sfDoesCellIdxRectContain h.validCellIdxRect x y) :
    ∃ msg, fillRosMapMsg h req = .ok (req, msg) ∧
      ofList msg.data (cellOffset req x y) = some (-1) := by
  obtain ⟨msg, hmsg, -, -, -, -, -, -, hdata⟩ := fillRosMapMsg_spec hI (not_empty_of_contain hxy)
  refine ⟨msg, hmsg, ?_⟩
  rw [hdata x y hxy, hI.outside_zero x y hvalid]
  rfl

end Loop

/-- On an exact platform a sync that succeeds has fetched a partition of the known
rectangle into tiles of bounded size, and leaves exactly these cells in the holder,
whatever it held before. -/
theorem syncWholeMap_exact (calls : List ((ℕ → Bool) × HolderCall K)) (s : State K) (fVal : K)
    (knownArea : RectangleF K) {s' : State K} {tr : List (Event (Ret K) Act Empty)}
    (h : Reachable (system (exactPlatform (runCalls new calls).resolution fVal knownArea))
      (fun j : Empty => (j.elim : Worker K Bool))
      ⟨syncWholeMap, { s with exploreMapHolder := runCalls new calls }, []⟩
      ⟨.ret true, s', tr⟩) :
    let resolution := (runCalls (new : ServerMapHolder K) calls).resolution
    let once := onceMaxCellCntWH fVal resolution
    ∃ (known : RectangleI) (fetched : List (RectangleI × MapData K)),
      sfCalcRoundedCellIdxRect resolution knownArea = .ok known ∧ ¬sfIsCellIdxRectEmpty known ∧
      mapFetches tr = fetched.map (fun p => (cellArea resolution p.1, .ok (some p.2))) ∧
      (∀ p ∈ fetched, ¬sfIsCellIdxRectEmpty p.1 ∧ p.1.width ≤ once ∧ p.1.height ≤ once) ∧
      (fetched.Pairwise fun p q => ∀ x y,
        ¬(sfDoesCellIdxRectContain p.1 x y ∧ sfDoesCellIdxRectContain q.1 x y)) ∧
      (∀ x y, (∃ p ∈ fetched, sfDoesCellIdxRectContain p.1 x y) ↔
        sfDoesCellIdxRectContain known x y) ∧
      s'.exploreMapHolder.validCellIdxRect = known ∧
      (∀ p ∈ fetched, ∀ x y, sfDoesCellIdxRectContain p.1 x y →
        ∃ b, ofList p.2.mapData (cellOffset p.1 x y) = some b ∧
          ofList s'.exploreMapHolder.mapDat
            (cellOffset s'.exploreMapHolder.availCellIdxRect x y) = some b) ∧
      ∀ req x y, sfDoesCellIdxRectContain req x y → ¬sfDoesCellIdxRectContain known x y →
        ∃ msg, fillRosMapMsg s'.exploreMapHolder req = .ok (req, msg) ∧
          ofList msg.data (cellOffset req x y) = some (-1) := by
  intro resolution once
  have hstart : NoTiles resolution { s with exploreMapHolder := runCalls new calls }
      ([] : List (Event (Ret K) Act Empty)) := ⟨runCalls_inv inv_new calls, rfl, rfl⟩
  have hsynced : Synced resolution fVal knownArea s' tr := by
    refine wp_reachable ?_ (fun _ _ _ _ _ h _ => h) (fun j => j.elim)
      (wp_syncWholeMap_exact hstart) h rfl
    rintro ok s tr a s' hok hact rfl
    obtain ⟨known, done, hknown, hne, honce, hdone, h⟩ := hok rfl
    exact ⟨known, done, hknown, hne, honce, hdone, holderOnly_tilesWritten.stable s tr a s' h hact⟩
  obtain ⟨known, fetched, hknown, hne, honce, htiles, hwritten⟩ := hsynced
  have hmem : ∀ {t}, t ∈ tiles once known ↔ ∃ p ∈ fetched, p.1 = t := by
    intro t
    rw [← htiles, List.mem_map]
  have hvalid := Synced.valid_eq honce hne htiles hwritten
  have hcover : ∀ x y, (∃ p ∈ fetched, sfDoesCellIdxRectContain p.1 x y) ↔
      sfDoesCellIdxRectContain known x y := by
    intro x y
    rw [← tiles_cover honce]
    constructor
    · rintro ⟨p, hp, hxy⟩
      exact ⟨p.1, hmem.mpr ⟨p, hp, rfl⟩, hxy⟩
    · rintro ⟨t, ht, hxy⟩
      obtain ⟨p, hp, rfl⟩ := hmem.mp ht
      exact ⟨p, hp, hxy⟩
  refine ⟨known, fetched, hknown, hne, ?_, ?_, ?_, hcover, hvalid, ?_, ?_⟩
  · rw [hwritten.fetches_eq, List.append_nil]
  · intro p hp
    obtain ⟨hpos, hw, hh, -⟩ := tile_bounds honce (hmem.mpr ⟨p, hp, rfl⟩)
    exact ⟨hpos, hw, hh⟩
  · have hdisj := @tiles_disjoint _ known honce
    rw [← htiles, List.pairwise_map] at hdisj
    exact hdisj
  · intro p hp x y hxy
    refine hwritten.stored hp hxy ?_
    rw [hvalid]
    exact (hcover x y).mp ⟨p, hp, hxy⟩
  · intro req x y hxy hknown
    rw [← hvalid] at hknown
    exact unknown_of_not_valid hwritten.inv hxy hknown

/-! ## A sync over old content -/

theorem fixedAnswer_exact (o : Op ℚ) : exactPlatform 4 0 ⟨0, 0, 20, 16⟩ o (fixedAnswer o) := by
  cases o with
  | getParameter name => rfl
  | getKnownArea =>
      intro area harea
      cases harea
      rfl
  | getMap area =>
      intro m rect hm hrect harea
      obtain ⟨hw, hh⟩ := not_empty_iff.mp hrect
      have hvalid : FloatArith.lt FloatArith.epsilon (4 : ℚ) = true := by decide +kernel
      rw [calcArea_eq hvalid] at harea
      cases harea
      cases hm
      have hfloor : ∀ n : ℤ, ⌊(4 : ℚ) * n / 4⌋ = n := by
        intro n
        rw [mul_div_cancel_left₀ _ (by norm_num), Int.floor_intCast]
      refine ⟨rfl, Prod.ext (hfloor _) (hfloor _), rfl, ?_⟩
      change ((List.replicate (⌊(4 : ℚ) * rect.width / 4⌋ * ⌊(4 : ℚ) * rect.height / 4⌋).toNat
        (200 : UInt8)).length : ℤ) = _
      rw [hfloor, hfloor, List.length_replicate, Int.toNat_of_nonneg (mul_nonneg hw.le hh.le)]
  | _ => trivial

/-- A holder of resolution 4 with one written cell, which the next sync does not know. -/
def oldContent : List ((ℕ → Bool) × HolderCall ℚ) :=
  [(fun _ => true, .reinit 4), (fun _ => true, .setMapData 20 0 4 1 1 fun _ => 200)]

def syncOver : Config (Ret ℚ) Act Empty (State ℚ) Exn Bool :=
  ⟨syncWholeMap, { (State.init : State ℚ) with exploreMapHolder := runCalls new oldContent }, []⟩

/-- The sync of two tiles, run by a scheduler that lets nobody interfere. -/
def syncOverRun : ℕ → Config (Ret ℚ) Act Empty (State ℚ) Exn Bool :=
  syncOver.runOf (handler fixedAnswer) (fun _ => action) (fun j => j.elim) (List.replicate 14 .op)

theorem isRun_syncOverRun :
    IsRun (system (exactPlatform 4 0 ⟨0, 0, 20, 16⟩)) (fun j => j.elim) syncOverRun 14 :=
  isRun_runOf (handle_handler fixedAnswer_exact) (fun _ _ => rfl) (by decide +kernel)

theorem syncWholeMap_exact_old :
    ∃ (s' : State ℚ) (tr : List (Event (Ret ℚ) Act Empty)), (mapFetches tr).length = 2 ∧
      s'.exploreMapHolder.validCellIdxRect = ⟨0, 0, 5, 4⟩ ∧
      ∃ msg, fillRosMapMsg s'.exploreMapHolder ⟨5, 0, 1, 1⟩ = .ok (⟨5, 0, 1, 1⟩, msg) ∧
        ofList msg.data 0 = some (-1) := by
  have hreach := isRun_syncOverRun.reachable (i := 14) le_rfl
  have hresult : (syncOverRun 14).prog.result = some true := by decide +kernel
  have hfetches : (mapFetches (syncOverRun 14).trace).length = 2 := by decide +kernel
  have hres : (runCalls (new : ServerMapHolder ℚ) oldContent).resolution = 4 := by decide +kernel
  have hknown : ∀ r, sfCalcRoundedCellIdxRect (4 : ℚ) ⟨0, 0, 20, 16⟩ = .ok r →
      r = ⟨0, 0, 5, 4⟩ := by
    intro r hr
    have hround : (sfCalcRoundedCellIdxRect (4 : ℚ) ⟨0, 0, 20, 16⟩).toOption =
      some ⟨0, 0, 5, 4⟩ := by decide +kernel
    rw [hr] at hround
    exact Option.some.inj hround
  rw [show syncOverRun 0 = syncOver from rfl] at hreach
  generalize syncOverRun 14 = c at hreach hresult hfetches
  obtain ⟨p, s', tr⟩ := c
  have hp : p = .ret true := Prog.eq_ret_of_result hresult
  subst hp
  rw [← hres] at hreach
  obtain ⟨known, fetched, hround, -, -, -, -, -, hvalid, -, hunknown⟩ :=
    syncWholeMap_exact oldContent State.init 0 ⟨0, 0, 20, 16⟩ hreach
  rw [hres] at hround
  rw [hknown known hround] at hvalid hunknown
  have hcell : cellOffset ⟨5, 0, 1, 1⟩ 5 0 = 0 := rfl
  obtain ⟨msg, hmsg, hread⟩ := hunknown ⟨5, 0, 1, 1⟩ 5 0 (by decide) (by decide)
  rw [hcell] at hread
  exact ⟨s', tr, hfetches, hvalid, msg, hmsg, hread⟩

end Ros2WsDemo.ServerExploreMapUpdateWorker

import Ros2WsDemo.MapUpdate.WholeSync

/-!
# A whole-map sync that fails

The sync works on the holder that is published: it clears the holder before the
first fetch and keeps no copy.  A sync that fails before the clear leaves the
holder alone.  After the clear the holder stands for the tiles written since,
whatever makes the sync stop; this is the invariant of its loop.
-/

namespace Ros2WsDemo

open Effect ServerMapHolder StridedCopy

variable {F J : Type} [FloatArith F]

instance (h : ServerMapHolder F) : Decidable (isMapDataEmpty h) :=
  inferInstanceAs (Decidable (sfIsCellIdxRectEmpty _))

/-- What the worker publishes, if anything.  The header is left out. -/
def ServerExploreMapPublishWorker.doPerform (exploreMapHolder : ServerMapHolder F) :
    Except Exn (Option (RectangleI × GetMapResponse F)) := do
  if isMapDataEmpty exploreMapHolder then
    return none
  let msgMap ← fillRosMapMsgOfValid exploreMapHolder
  return some msgMap

namespace ServerExploreMapUpdateWorker

/-! ## Steps that matter to nobody here -/

/-- The event neither fetches a map nor touches the holder. -/
def IsIdle : Event (Ret F) Act J → Prop
  | .op o _ => Idle o
  | _ => True

/-- Idle events keep the assertion. -/
def Framed (P : State F → List (Event (Ret F) Act J) → Prop) : Prop :=
  ∀ s s' tr e, P s tr → s'.exploreMapHolder = s.exploreMapHolder → IsIdle e → P s' (tr ++ [e])

section Framed

variable {P : State F → List (Event (Ret F) Act J) → Prop} {answers : (o : Op F) → Ret F o → Prop}
  {s : State F} {tr : List (Event (Ret F) Act J)}

theorem Framed.stable (hP : Framed P) : Stable (system answers) P := by
  intro s tr a s' h hact
  cases hact
  exact hP s _ tr _ h rfl trivial

theorem Framed.wp_uses (hP : Framed P) {α : Type} {p : Worker F α} (hp : p.Uses Idle)
    (h : P s tr) :
    wp (system answers) (fun _ _ _ => True) (fun _ => P) (fun _ => P) p s tr := by
  refine wp_of_uses hp hP.stable h (fun _ _ _ _ _ => trivial) ?_
  exact fun s tr o r s' ho h hr => hP s s' tr _ h (ho.holder_eq hr) ho

theorem Framed.wp_readExploreMapHolder (hP : Framed P) (h : P s tr) :
    wp (system answers) (fun _ _ _ => True)
      (fun holder s tr => holder = s.exploreMapHolder ∧ P s tr)
      (fun _ => P) readExploreMapHolder s tr := by
  apply wp_perform (o := Op.readExploreMapHolder) hP.stable h
  · exact fun _ _ _ => trivial
  · rintro s tr r s' h ⟨rfl, rfl⟩
    exact ⟨rfl, hP s' s' tr _ h rfl trivial⟩

/-- A call of the holder: what holds when it returns and when it throws. -/
theorem Framed.wp_callHolder (hP : Framed P) {Q R : State F → List (Event (Ret F) Act J) → Prop}
    (call : HolderCall F) (h : P s tr)
    (hQ : ∀ s tr alloc holder, P s tr →
      (call.exec alloc).run s.exploreMapHolder = .ok () holder →
      Q { s with exploreMapHolder := holder } (tr ++ [.op (.callExploreMapHolder call) (.ok ())]))
    (hR : ∀ s tr alloc holder e, P s tr →
      (call.exec alloc).run s.exploreMapHolder = .error e holder →
      R { s with exploreMapHolder := holder }
        (tr ++ [.op (.callExploreMapHolder call) (.error e)])) :
    wp (system answers) (fun _ _ _ => True) (fun _ => Q) (fun _ => R) (callHolder call) s tr := by
  apply wp_seq (R := fun (ans : Except Exn Unit) s tr =>
    (ans = .ok () → Q s tr) ∧ ∀ e, ans = .error e → R s tr)
  · apply wp_perform (o := Op.callExploreMapHolder call) hP.stable h
    · exact fun _ _ _ => trivial
    · rintro s tr ans s' h ⟨alloc, hrun⟩
      cases hexec : (call.exec alloc).run s.exploreMapHolder with
      | ok u holder =>
          simp only [hexec] at hrun
          obtain ⟨rfl, rfl⟩ := hrun
          exact ⟨fun _ => hQ s tr alloc holder h hexec, fun e he => nomatch he⟩
      | error e holder =>
          simp only [hexec] at hrun
          obtain ⟨rfl, rfl⟩ := hrun
          exact ⟨fun he => (nomatch he), fun _ _ => hR s tr alloc holder e h hexec⟩
  · intro ans s tr h
    cases ans with
    | ok _ => exact h.1 rfl
    | error e => exact h.2 e rfl

end Framed

/-! ## Before and after the clear -/

/-- The map that consists of these tiles, written one after the other. -/
def tilesMap (resolution : F) (written : List (MapData F)) : CellMap F :=
  written.foldl CellMap.writeMap ⟨resolution, fun _ _ => none⟩

theorem resolution_foldl_writeMap (written : List (MapData F)) (m : CellMap F) :
    (written.foldl CellMap.writeMap m).resolution = m.resolution := by
  induction written generalizing m with
  | nil => rfl
  | cons hMap written ih => exact ih _

/-- The bounding rectangle of the tiles. -/
def tilesRect (resolution : F) (written : List (MapData F)) : RectangleI :=
  (written.map fun m => cellIdxRectToUp resolution m.mapPosition.1 m.mapPosition.2
    m.mapDimension.1 m.mapDimension.2).foldl mergedRect {}

/-- The sync has not come to the clear. -/
structure Untouched (old : ServerMapHolder F) (s : State F) (tr : List (Event (Ret F) Act J)) :
    Prop where
  holder_eq : s.exploreMapHolder = old
  idle : ∀ e ∈ tr, IsIdle e

/-- The holder was cleared and stands for the tiles written since.  The last
fetch may have been answered without having been written. -/
structure Rebuilt (resolution : F) (written : List (MapData F))
    (pending : List (Except Exn (Map F))) (s : State F) (tr : List (Event (Ret F) Act J)) :
    Prop where
  inv : Inv s.exploreMapHolder
  refines : Refines s.exploreMapHolder (tilesMap resolution written)
  valid_eq : s.exploreMapHolder.validCellIdxRect = tilesRect resolution written
  cleared : .op (.callExploreMapHolder .clear) (.ok ()) ∈ tr
  fetches_eq : (mapFetches tr).map Prod.snd =
    written.map (fun m => Except.ok (some m)) ++ pending

/-- The sync has stopped after the clear. -/
def Stopped (resolution : F) (s : State F) (tr : List (Event (Ret F) Act J)) : Prop :=
  ∃ written pending, pending.length ≤ 1 ∧ Rebuilt resolution written pending s tr

section Phases

variable {resolution : F} {old : ServerMapHolder F} {written : List (MapData F)}
  {pending : List (Except Exn (Map F))} {answers : (o : Op F) → Ret F o → Prop}
  {s s' : State F} {tr : List (Event (Ret F) Act J)}

omit [FloatArith F] in
theorem IsIdle.mapFetch_eq {e : Event (Ret F) Act J} (he : IsIdle e) : mapFetch e = none := by
  cases e with
  | op o r => exact Idle.mapFetch_eq he r
  | act a => rfl
  | start j => rfl

omit [FloatArith F] in
theorem mapFetches_eq_nil (h : ∀ e ∈ tr, IsIdle e) : mapFetches tr = [] :=
  List.filterMap_eq_nil_iff.mpr fun e he => (h e he).mapFetch_eq

omit [FloatArith F] in
theorem framed_untouched : Framed (Untouched (J := J) old) := by
  rintro s s' tr e ⟨hholder, hidle⟩ heq he
  refine ⟨heq.trans hholder, fun e' he' => ?_⟩
  rcases List.mem_append.mp he' with he' | he'
  · exact hidle e' he'
  · exact List.mem_singleton.mp he' ▸ he

theorem framed_rebuilt : Framed (Rebuilt (J := J) resolution written pending) := by
  rintro s s' tr e h heq he
  exact ⟨heq ▸ h.inv, heq ▸ h.refines, heq ▸ h.valid_eq, List.mem_append_left _ h.cleared,
    (congrArg _ (mapFetches_snoc tr he.mapFetch_eq)).trans h.fetches_eq⟩

/-- A call of the holder that throws changes nothing. -/
theorem Rebuilt.threw (h : Rebuilt resolution written pending s tr) {alloc : ℕ → Bool}
    {call : HolderCall F} {holder : ServerMapHolder F} {e : Exn} {e' : Event (Ret F) Act J}
    (hrun : (call.exec alloc).run s.exploreMapHolder = .error e holder)
    (he' : mapFetch e' = none) :
    Rebuilt resolution written pending { s with exploreMapHolder := holder } (tr ++ [e']) := by
  rcases exec_spec h.inv alloc call with ⟨h', hok, -⟩ | ⟨e₁, herr, -⟩
  · cases hok.symm.trans hrun
  · cases herr.symm.trans hrun
    exact ⟨h.inv, h.refines, h.valid_eq, List.mem_append_left _ h.cleared,
      (congrArg _ (mapFetches_snoc tr he')).trans h.fetches_eq⟩

theorem Rebuilt.fetch (h : Rebuilt resolution written [] s tr) (area : RectangleF F)
    (ans : Except Exn (Map F)) :
    Rebuilt resolution written [ans] s (tr ++ [.op (.getMap area) ans]) where
  inv := h.inv
  refines := h.refines
  valid_eq := h.valid_eq
  cleared := List.mem_append_left _ h.cleared
  fetches_eq := by
    rw [mapFetches_snoc_getMap, List.map_append, h.fetches_eq, List.append_nil]
    rfl

theorem Rebuilt.write {m : MapData F} {holder : ServerMapHolder F}
    (h : Rebuilt resolution written [.ok (some m)] s tr)
    (hwritten : WrittenTo (cellIdxRectToUp s.exploreMapHolder.resolution m.mapPosition.1
      m.mapPosition.2 m.mapDimension.1 m.mapDimension.2) (ofList m.mapData)
      s.exploreMapHolder holder)
    {e : Event (Ret F) Act J} (he : mapFetch e = none) :
    Rebuilt resolution (written ++ [m]) [] { s with exploreMapHolder := holder } (tr ++ [e]) := by
  have hmap : tilesMap resolution (written ++ [m]) = (tilesMap resolution written).writeMap m := by
    simp only [tilesMap, List.foldl_append, List.foldl_cons, List.foldl_nil]
  have hholder : s.exploreMapHolder.resolution = resolution :=
    h.refines.resolution_eq.trans (resolution_foldl_writeMap written _)
  refine ⟨hwritten.inv, ?_, ?_, List.mem_append_left _ h.cleared, ?_⟩
  · rw [hmap, CellMap.writeMap, ← h.refines.resolution_eq]
    exact h.refines.writtenTo hwritten
  · rw [hwritten.valid_eq, h.valid_eq, hholder]
    simp only [tilesRect, List.map_append, List.foldl_append, List.map_cons, List.map_nil,
      List.foldl_cons, List.foldl_nil]
  · rw [mapFetches_snoc tr he, h.fetches_eq, List.map_append, List.append_nil]
    rfl

/-! ## The loop -/

theorem wp_getMapByPltfm_rebuilt (area : RectangleF F) (h : Rebuilt resolution written [] s tr) :
    wp (system answers) (fun _ _ _ => True)
      (fun hMap s tr => match hMap with
        | some m => Rebuilt resolution written [.ok (some m)] s tr
        | none => Stopped resolution s tr)
      (fun _ => Stopped resolution) (getMapByPltfm area) s tr := by
  apply wp_tryCatch.mpr
  apply wp_seq (R := fun (ans : Except Exn (Map F)) => Rebuilt resolution written [ans])
  · apply wp_perform (o := Op.getMap area) framed_rebuilt.stable h
    · exact fun _ _ _ => trivial
    · rintro s tr ans s' h ⟨-, rfl⟩
      exact h.fetch area ans
  · intro ans s tr h
    have hstopped : Stopped resolution s tr := ⟨written, [ans], le_rfl, h⟩
    cases ans with
    | ok hMap =>
        cases hMap with
        | none => exact hstopped
        | some m => exact h
    | error e => cases e <;> exact hstopped

/-- One tile: it is written, or the holder stands for the tiles before it. -/
theorem wp_updateMapInCellIdxRect_rebuilt (r : RectangleI)
    (h : Rebuilt resolution written [] s tr) :
    wp (system answers) (fun _ _ _ => True)
      (fun ok s tr => if ok = true then ∃ m, Rebuilt resolution (written ++ [m]) [] s tr
        else Stopped resolution s tr)
      (fun _ => Stopped resolution) (updateMapInCellIdxRect r) s tr := by
  have hstop : ∀ {pending} s (tr : List (Event (Ret F) Act J)), pending.length ≤ 1 →
      Rebuilt resolution written pending s tr → Stopped resolution s tr :=
    fun _ _ hlen h => ⟨written, _, hlen, h⟩
  apply wp_seq (wp_mono (framed_rebuilt.wp_readExploreMapHolder h) (fun _ _ _ h => h)
    fun _ s tr h => hstop s tr (Nat.zero_le _) h)
  rintro holder s tr ⟨rfl, h⟩
  rw [calcArea_eq h.inv.resolution_valid]
  apply wp_seq (wp_getMapByPltfm_rebuilt _ h)
  intro hMap s tr h
  cases hMap with
  | none => exact h
  | some m =>
      apply wp_seq (wp_mono
        (framed_rebuilt.wp_uses (idle_checkRecvResolution m.mapResolution.1) h)
        (fun _ _ _ h => h) fun _ s tr h => hstop s tr le_rfl h)
      intro ok s tr h
      cases ok with
      | false => exact hstop s tr le_rfl h
      | true =>
          refine wp_seq (framed_rebuilt.wp_callHolder (.setMapDataOfMap (some m)) h
            (Q := fun s tr => ∃ m, Rebuilt resolution (written ++ [m]) [] s tr) ?_ ?_)
            fun _ s tr h => h
          · intro s tr alloc holder h hrun
            rcases setMapDataOfMap_spec h.inv alloc m with ⟨h', hok, hwritten, -⟩ | ⟨e, herr, -⟩
            · cases hok.symm.trans hrun
              exact ⟨m, h.write hwritten rfl⟩
            · cases herr.symm.trans hrun
          · exact fun s tr alloc holder e h hrun => hstop _ _ le_rfl (h.threw hrun rfl)

theorem wp_fetchTiles_rebuilt (rs : List RectangleI) (h : Rebuilt resolution written [] s tr) :
    wp (system answers) (fun _ _ _ => True) (fun ok s tr => ok = false → Stopped resolution s tr)
      (fun _ => Stopped resolution) (fetchTiles rs) s tr := by
  induction rs generalizing written s tr with
  | nil => exact fun hok => nomatch hok
  | cons r rs ih =>
      apply wp_seq (wp_updateMapInCellIdxRect_rebuilt r h)
      intro ok s tr h
      cases ok with
      | false => exact fun _ => h
      | true =>
          obtain ⟨m, h⟩ := h
          exact ih h

theorem wp_callClear_rebuilt (hI : Inv old) (h : Untouched old s tr) :
    wp (system answers) (fun _ _ _ => True) (fun _ => Rebuilt (J := J) old.resolution [] [])
      (fun _ => Untouched old) (callHolder .clear) s tr := by
  refine framed_untouched.wp_callHolder .clear h ?_ ?_
  · rintro s tr alloc holder ⟨rfl, hidle⟩ hrun
    obtain ⟨h', hclear, hres, hexec⟩ := executed_clear hI
    cases hclear
    cases hrun
    refine ⟨hexec.inv, ⟨hres, fun x y => byteAt_of_empty empty_default x y⟩, rfl,
      List.mem_append_right _ List.mem_cons_self, ?_⟩
    rw [mapFetches_snoc tr rfl, mapFetches_eq_nil hidle]
    rfl
  · rintro s tr alloc holder e ⟨rfl, -⟩ hrun
    obtain ⟨h', hclear, -⟩ := executed_clear hI
    cases hclear.symm.trans hrun

theorem wp_callReserve_rebuilt (known : RectangleI) (h : Rebuilt resolution [] [] s tr) :
    wp (system answers) (fun _ _ _ => True) (fun _ => Rebuilt resolution [] [])
      (fun _ => Stopped resolution) (callHolder (.reserveByCellIdxRect known)) s tr := by
  refine framed_rebuilt.wp_callHolder _ h ?_ ?_
  · intro s tr alloc holder h hrun
    rcases reserveByCellIdxRect_spec h.inv alloc known with ⟨h', hok, hgrown, -⟩ | herr
    · cases hok.symm.trans hrun
      exact ⟨hgrown.inv, h.refines.grownTo hgrown, hgrown.valid_eq.trans h.valid_eq,
        List.mem_append_left _ h.cleared,
        (congrArg _ (mapFetches_snoc tr rfl)).trans h.fetches_eq⟩
    · cases herr.symm.trans hrun
  · exact fun s tr alloc holder e h hrun => ⟨[], [], Nat.zero_le _, h.threw hrun rfl⟩

/-- What a sync that does not succeed leaves behind. -/
def Failed (old : ServerMapHolder F) (s : State F) (tr : List (Event (Ret F) Act J)) : Prop :=
  Untouched old s tr ∨ Stopped old.resolution s tr

theorem wp_syncWholeMap_failed (hI : Inv old) (h : Untouched old s tr) :
    wp (system answers) (fun _ _ _ => True) (fun ok s tr => ok = false → Failed old s tr)
      (fun _ => Failed old) syncWholeMap s tr := by
  have hleft : ∀ {α : Type} {p : Worker F α} {Q} {s} {tr : List (Event (Ret F) Act J)},
      wp (system answers) (fun _ _ _ => True) Q (fun _ => Untouched old) p s tr →
        wp (system answers) (fun _ _ _ => True) Q (fun _ => Failed old) p s tr :=
    fun h => wp_mono h (fun _ _ _ h => h) fun _ _ _ h => Or.inl h
  have hread : ∀ {α : Type} {p : Worker F α} {s} {tr : List (Event (Ret F) Act J)},
      p.Uses Idle → Untouched old s tr →
        wp (system answers) (fun _ _ _ => True) (fun _ => Untouched old) (fun _ => Failed old)
          p s tr :=
    fun hp h => hleft (framed_untouched.wp_uses hp h)
  apply wp_seq (hread (Prog.uses_perform (o := Op.getParameter _) trivial) h)
  intro fVal s tr h
  apply wp_seq (hleft (framed_untouched.wp_readExploreMapHolder h))
  rintro holder s tr ⟨-, h⟩
  apply wp_seq (hread (Prog.uses_ofExcept _) h)
  intro _ s tr h
  apply wp_seq (hread ((Prog.uses_perform (o := Op.getKnownArea) trivial).bind
    Prog.uses_ofExcept) h)
  intro knownArea s tr h
  apply wp_seq (hleft (framed_untouched.wp_readExploreMapHolder h))
  rintro holder s tr ⟨-, h⟩
  apply wp_seq (hread (Prog.uses_ofExcept _) h)
  intro known s tr h
  split_ifs
  · exact fun _ => Or.inl h
  apply wp_seq (hleft (wp_callClear_rebuilt hI h))
  intro _ s tr h
  have hright : ∀ s tr, Stopped old.resolution s tr → Failed (J := J) old s tr :=
    fun _ _ h => Or.inr h
  apply wp_seq (wp_mono (wp_callReserve_rebuilt known h) (fun _ _ _ h => h)
    fun _ => hright)
  intro _ s tr h
  rw [syncRows_eq_fetchTiles]
  exact wp_mono (wp_fetchTiles_rebuilt _ h) (fun _ s tr h hok => hright s tr (h hok))
    fun _ => hright

/-! ## What is published -/

/-- The publish worker shows these tiles, and nothing else. -/
def PublishesTiles (resolution : F) (written : List (MapData F))
    (exploreMapHolder : ServerMapHolder F) : Prop :=
  let rect := tilesRect resolution written
  (sfIsCellIdxRectEmpty rect →
    ServerExploreMapPublishWorker.doPerform exploreMapHolder = .ok none) ∧
  (¬sfIsCellIdxRectEmpty rect → ∃ msg,
    ServerExploreMapPublishWorker.doPerform exploreMapHolder = .ok (some (rect, msg)) ∧
    msg.width = rect.width.toNat ∧ msg.height = rect.height.toNat ∧
    ∀ x y, sfDoesCellIdxRectContain rect x y →
      ofList msg.data (cellOffset rect x y) =
        some (CellMap.occupancy ((tilesMap resolution written).cells x y)))

theorem Rebuilt.published (h : Rebuilt resolution written pending s tr) :
    PublishesTiles resolution written s.exploreMapHolder := by
  have hvalid := h.valid_eq
  constructor
  · intro hempty
    rw [← hvalid] at hempty
    exact if_pos hempty
  · intro hne
    obtain ⟨msg, hmsg, -, -, -, hw, hh, -, hdata⟩ := fillRosMapMsg_spec h.inv hne
    have hnot : ¬isMapDataEmpty s.exploreMapHolder := by
      rw [isMapDataEmpty, hvalid]
      exact hne
    refine ⟨msg, ?_, hw, hh, fun x y hxy => ?_⟩
    · simp only [ServerExploreMapPublishWorker.doPerform, if_neg hnot, fillRosMapMsgOfValid,
        hvalid, hmsg]
      rfl
    · rw [hdata x y hxy, h.refines.byteAt_eq, toOccupancy_getD]

theorem stable_failed : Stable (system answers) (Failed (J := J) old) := by
  rintro s tr a s' (h | ⟨written, pending, hlen, h⟩) hact
  · exact Or.inl (framed_untouched.stable s tr a s' h hact)
  · exact Or.inr ⟨written, pending, hlen, framed_rebuilt.stable s tr a s' h hact⟩

end Phases

/-- A sync that fails before it clears the holder leaves the published map as it
was.  After the clear the published map is that of the tiles fetched and written
before the failure, with nothing of what it was. -/
theorem syncWholeMap_failed (calls : List ((ℕ → Bool) × HolderCall F)) (s : State F)
    (answers : (o : Op F) → Ret F o → Prop) {p : Worker F Bool} {s' : State F}
    {tr : List (Event (Ret F) Act Empty)} (hfail : p = .ret false ∨ ∃ e, p = .throw e)
    (h : Reachable (system answers) (fun j : Empty => (j.elim : Worker F Bool))
      ⟨syncWholeMap, { s with exploreMapHolder := runCalls new calls }, []⟩ ⟨p, s', tr⟩) :
    ((∀ r, .op (.callExploreMapHolder .clear) r ∉ tr) ∧ mapFetches tr = [] ∧
      ServerExploreMapPublishWorker.doPerform s'.exploreMapHolder =
        ServerExploreMapPublishWorker.doPerform (runCalls new calls)) ∨
    (.op (.callExploreMapHolder .clear) (.ok ()) ∈ tr ∧
      ∃ (written : List (MapData F)) (pending : List (Except Exn (Map F))),
        (mapFetches tr).map Prod.snd = written.map (fun m => .ok (some m)) ++ pending ∧
        pending.length ≤ 1 ∧
        PublishesTiles (runCalls new calls : ServerMapHolder F).resolution written
          s'.exploreMapHolder) := by
  have hI : Inv (runCalls new calls : ServerMapHolder F) := runCalls_inv inv_new calls
  have hstart : Untouched (runCalls new calls)
      { s with exploreMapHolder := runCalls new calls }
      ([] : List (Event (Ret F) Act Empty)) := ⟨rfl, fun _ he => nomatch he⟩
  have hstable : ∀ ok : Bool, Stable (system answers) fun s (tr : List (Event (Ret F) Act Empty)) =>
      ok = false → Failed (runCalls new calls) s tr :=
    fun _ s tr a s' hok hact hfalse => stable_failed s tr a s' (hok hfalse) hact
  have hend := wp_reachable hstable (fun _ => stable_failed) (fun j => j.elim)
    (wp_syncWholeMap_failed hI hstart) h
  have hfailed : Failed (runCalls new calls) s' tr := by
    rcases hfail with rfl | ⟨e, rfl⟩
    · exact hend rfl
    · exact hend
  rcases hfailed with ⟨hholder, hidle⟩ | ⟨written, pending, hlen, h⟩
  · exact Or.inl ⟨fun r hr => hidle _ hr, mapFetches_eq_nil hidle, congrArg _ hholder⟩
  · exact Or.inr ⟨h.cleared, written, pending, h.fetches_eq, hlen, h.published⟩

/-! ## The second tile fails -/

/-- The platform of two tiles, of which it does not serve the second. -/
def failingAnswer : (o : Op ℚ) → Ret ℚ o
  | .getMap area => if area.x = 0 then fixedAnswer (.getMap area) else .error .operationFail
  | o => fixedAnswer o

def failedSyncRun : ℕ → Config (Ret ℚ) Act Empty (State ℚ) Exn Bool :=
  syncOver.runOf (handler failingAnswer) (fun _ => action) (fun j => j.elim)
    (List.replicate 12 .op)

theorem reachable_failedSyncRun :
    Reachable (system fun _ _ => True) (fun j => j.elim) syncOver (failedSyncRun 12) := by
  have hrun : IsRun (system fun _ _ => True) (fun j => j.elim) failedSyncRun 12 :=
    isRun_runOf (handle_handler fun _ => trivial) (fun _ _ => rfl) (by decide +kernel)
  exact hrun.reachable le_rfl

theorem syncWholeMap_failed_second :
    ∃ (s' : State ℚ) (tr : List (Event (Ret ℚ) Act Empty)) (written : List (MapData ℚ))
      (pending : List (Except Exn (Map ℚ))),
      (mapFetches tr).map Prod.snd = written.map (fun m => .ok (some m)) ++ pending ∧
      (mapFetches tr).length = 2 ∧ pending.length ≤ 1 ∧
      PublishesTiles 4 written s'.exploreMapHolder := by
  have hreach := reachable_failedSyncRun
  have hresult : (failedSyncRun 12).prog.result = some false := by decide +kernel
  have hfetches : (mapFetches (failedSyncRun 12).trace).length = 2 := by decide +kernel
  have hres : (runCalls (new : ServerMapHolder ℚ) oldContent).resolution = 4 := by decide +kernel
  generalize failedSyncRun 12 = c at hreach hresult hfetches
  obtain ⟨p, s', tr⟩ := c
  have hp : p = .ret false := Prog.eq_ret_of_result hresult
  subst hp
  rcases syncWholeMap_failed oldContent State.init _ (Or.inl rfl) hreach with
    ⟨-, hnil, -⟩ | ⟨-, written, pending, hsplit, hlen, hpublished⟩
  · rw [hnil] at hfetches
    cases hfetches
  · rw [hres] at hpublished
    exact ⟨s', tr, written, pending, hsplit, hfetches, hlen, hpublished⟩

/-- The failed sync has replaced the published map by its first tile. -/
theorem published_map_damaged :
    ¬∀ (calls : List ((ℕ → Bool) × HolderCall ℚ)) (s : State ℚ) (p : Worker ℚ Bool) (s' : State ℚ)
      (tr : List (Event (Ret ℚ) Act Empty)), (p = .ret false ∨ ∃ e, p = .throw e) →
      Reachable (system fun _ _ => True) (fun j : Empty => (j.elim : Worker ℚ Bool))
        ⟨syncWholeMap, { s with exploreMapHolder := runCalls new calls }, []⟩ ⟨p, s', tr⟩ →
      ServerExploreMapPublishWorker.doPerform s'.exploreMapHolder =
        ServerExploreMapPublishWorker.doPerform (runCalls new calls) := by
  intro hholds
  have hreach := reachable_failedSyncRun
  have hresult : (failedSyncRun 12).prog.result = some false := by decide +kernel
  have hafter : (ServerExploreMapPublishWorker.doPerform
      (failedSyncRun 12).state.exploreMapHolder).toOption.map (fun m => m.map Prod.fst) =
      some (some ⟨0, 0, 4, 4⟩) := by decide +kernel
  have hbefore : (ServerExploreMapPublishWorker.doPerform
      (runCalls (new : ServerMapHolder ℚ) oldContent)).toOption.map (fun m => m.map Prod.fst) =
      some (some ⟨5, 0, 1, 1⟩) := by decide +kernel
  generalize failedSyncRun 12 = c at hreach hresult hafter
  obtain ⟨p, s', tr⟩ := c
  have hsame := hholds oldContent State.init p s' tr (Or.inl (Prog.eq_ret_of_result hresult)) hreach
  rw [hsame, hbefore] at hafter
  cases hafter

end ServerExploreMapUpdateWorker

end Ros2WsDemo

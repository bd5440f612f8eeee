import Mathlib.Data.Rat.Floor
import Ros2WsDemo.MapHolder.Refinement

/-!
# How far a write lets the buffer grow

The room a holder takes for a block is measured against the alignment hull of what it
had and the block with a margin.  `checkToExtendMap_` compares the block with the old
rectangle edge by edge, also when that is the empty rectangle at the origin.
-/

namespace Ros2WsDemo.ServerMapHolder

/-! ## Alignment hulls -/

/-- The smallest aligned rectangle around `r`. -/
def alignedHull (r : RectangleI) : RectangleI where
  x := r.x / 16 * 16
  y := r.y / 16 * 16
  width := -(-(r.x + r.width) / 16) * 16 - r.x / 16 * 16
  height := -(-(r.y + r.height) / 16) * 16 - r.y / 16 * 16

theorem alignedHull_aligned (r : RectangleI) : Aligned (alignedHull r) := by
  simp only [Aligned, alignedHull]
  omega

theorem within_alignedHull (r : RectangleI) : Within r (alignedHull r) := by
  simp only [Within, alignedHull]
  omega

theorem alignedHull_least {r s : RectangleI} (hs : Aligned s) (h : Within r s) :
    Within (alignedHull r) s := by
  simp only [Aligned, Within, alignedHull] at *
  omega

theorem alignedHull_mono {r s : RectangleI} (h : Within r s) :
    Within (alignedHull r) (alignedHull s) :=
  alignedHull_least (alignedHull_aligned s) (h.trans (within_alignedHull s))

theorem adjusted_eq_alignedHull {r : RectangleI} (hr : ¬sfIsCellIdxRectEmpty r) :
    sfCalcAdjustedCellIdxRect r = .ok (alignedHull r) := by
  obtain ⟨s, hadj, haligned, hwithin, hx, hy, hxEnd, hyEnd⟩ := adjusted_spec hr
  have hleast := alignedHull_least haligned hwithin
  have hback : Within s (alignedHull r) := by
    simp only [Aligned, Within, alignedHull] at *
    omega
  rw [hadj, eq_of_within hback hleast]

/-- `r` with `more` cells added on each side. -/
def enlarged (more : ℤ) (r : RectangleI) : RectangleI where
  x := r.x - more
  y := r.y - more
  width := r.width + 2 * more
  height := r.height + 2 * more

theorem within_enlarged {more : ℤ} (hmore : 0 ≤ more) (r : RectangleI) :
    Within r (enlarged more r) := by
  simp only [Within, enlarged]
  omega

/-! ## The room after a write -/

variable {F : Type} [FloatArith F]

/-- Growing takes the hull of the old room and the rectangle, or is refused. -/
theorem growTo_eq {h : ServerMapHolder F} (hI : Inv h) (alloc : ℕ → Bool) {r avail : RectangleI}
    (hr : ¬sfIsCellIdxRectEmpty r)
    (havail : avail = alignedHull (mergedRect h.availCellIdxRect r)) :
    if alloc (avail.width * avail.height).toNat then ∃ dat, growTo alloc h r = .ok (avail, dat)
    else growTo alloc h r = .error .badAlloc := by
  have hmerged := merge_not_empty (A := h.availCellIdxRect) hr
  have hadj := adjusted_eq_alignedHull hmerged
  rw [← havail] at hadj
  unfold growTo
  simp only [merge_eq, except_ok_bind, hadj, allocZero]
  split_ifs with halloc hv
  · exact ⟨_, rfl⟩
  · have hold : Within h.validCellIdxRect h.availCellIdxRect := hI.valid_within.resolve_left hv
    have hhull : Within (mergedRect h.availCellIdxRect r) avail := by
      rw [havail]
      exact within_alignedHull _
    obtain ⟨dat, hcopy, -⟩ := copyValidCells_spec hI hv
      ((hold.trans (within_merge_left (hI.not_empty_avail hv))).trans hhull)
    exact ⟨dat, by rw [except_ok_bind, hcopy]; rfl⟩
  · rfl
  · rfl

/-- The room `setMapData` asks for when the block sticks out. -/
def roomFor (h : ServerMapHolder F) (r : RectangleI) : RectangleI :=
  alignedHull (mergedRect h.availCellIdxRect (extendedCellIdxRect h r))

theorem checkToExtendMap_avail {h : ServerMapHolder F} (hI : Inv h) (alloc : ℕ → Bool)
    {r : RectangleI} (hr : ¬sfIsCellIdxRectEmpty r)
    (hout : ¬sfDoesCellIdxRectContainRect h.availCellIdxRect r) :
    if alloc ((roomFor h r).width * (roomFor h r).height).toNat then
      ∃ h', (checkToExtendMap alloc r).run h = .ok () h' ∧ h'.availCellIdxRect = roomFor h r
    else (checkToExtendMap alloc r).run h = .error .badAlloc h := by
  have hext := within_extendedCellIdxRect hI (r := r)
  have hne := not_empty_of_within hr hext
  have hextOut : ¬sfDoesCellIdxRectContainRect h.availCellIdxRect (extendedCellIdxRect h r) := by
    rw [containRect_iff hne]
    rintro ⟨havail, hin⟩
    exact hout ((containRect_iff hr).mpr ⟨havail, hext.trans hin⟩)
  have hroom : roomFor h r =
      alignedHull (mergedRect h.availCellIdxRect (extendedCellIdxRect h r)) := rfl
  have hgrow := growTo_eq hI alloc hne hroom
  rw [checkToExtendMap_eq hI alloc hr, if_neg hout]
  split_ifs at hgrow ⊢ with halloc
  · obtain ⟨dat, hgrow⟩ := hgrow
    have harea := calcArea_eq hI.resolution_valid (roomFor h r)
    refine ⟨{ h with
      availCellIdxRect := roomFor h r
      availMapArea := cellArea h.resolution (roomFor h r)
      mapDat := dat }, ?_, rfl⟩
    simp [reserveByCellIdxRect, hne, hextOut, hgrow, harea]
  · simp [reserveByCellIdxRect, hne, hextOut, hgrow]

/-- Once there is room for the block, writing it does not touch the room. -/
theorem setMapData_of_extended {h h₁ : ServerMapHolder F} (hI : Inv h) {alloc : ℕ → Bool}
    {x y resolution : F} {dimX dimY : ℤ} (hdimX : 1 ≤ dimX) (hdimY : 1 ≤ dimY)
    {src : ℤ → Option UInt8} (hsrc : ∀ i, 0 ≤ i → i < dimX * dimY → (src i).isSome)
    (heq : sfCheckResolutionEquality resolution h.resolution = .ok ())
    (hext : (checkToExtendMap alloc (cellIdxRectToUp h.resolution x y dimX dimY)).run h =
      .ok () h₁) :
    ∃ h', (setMapData alloc x y resolution dimX dimY src).run h = .ok () h' ∧
      h'.availCellIdxRect = h₁.availCellIdxRect := by
  set r := cellIdxRectToUp h.resolution x y dimX dimY with hr
  have hne : ¬sfIsCellIdxRectEmpty r := not_empty_iff.mpr ⟨hdimX, hdimY⟩
  have hdim : ¬(dimX < 1 ∨ dimY < 1) := by omega
  obtain ⟨hgrown, hwithin⟩ : GrownTo h h₁ ∧ Within r h₁.availCellIdxRect := by
    rcases checkToExtendMap_spec hI alloc hne with ⟨h₂, hrun, hgrown, hwithin⟩ | hrun
    · rw [hext] at hrun
      cases hrun
      exact ⟨hgrown, hwithin⟩
    · rw [hext] at hrun
      cases hrun
  obtain ⟨dat, hcopy, -⟩ := copyBlock_spec hgrown.inv hne hwithin fun x y hxy =>
    hsrc _ (cellOffset_bounds hxy).1 (cellOffset_bounds hxy).2
  have harea := calcArea_eq hgrown.inv.resolution_valid (mergedRect h₁.validCellIdxRect r)
  refine ⟨{ h₁ with
    mapDat := dat
    validCellIdxRect := mergedRect h₁.validCellIdxRect r
    validMapArea := cellArea h₁.resolution (mergedRect h₁.validCellIdxRect r) }, ?_, rfl⟩
  simp [setMapData, hdim, heq, ← hr, hext, hcopy, merge_eq, harea]

/-- The check of the resolution or the allocator turns the block away. -/
def Refused (alloc : ℕ → Bool) (h : ServerMapHolder F) (resolution : F) (r : RectangleI) : Prop :=
  (∃ e, sfCheckResolutionEquality resolution h.resolution = .error e) ∨
    (¬sfDoesCellIdxRectContainRect h.availCellIdxRect r ∧
      alloc ((roomFor h r).width * (roomFor h r).height).toNat = false)

/-- A block that is not turned away stays in the old room or gets `roomFor` it. -/
theorem setMapData_avail {h : ServerMapHolder F} (hI : Inv h) (alloc : ℕ → Bool)
    (x y resolution : F) {dimX dimY : ℤ} (hdimX : 1 ≤ dimX) (hdimY : 1 ≤ dimY)
    {src : ℤ → Option UInt8} (hsrc : ∀ i, 0 ≤ i → i < dimX * dimY → (src i).isSome)
    {r : RectangleI} (hr : r = cellIdxRectToUp h.resolution x y dimX dimY) :
    (Refused alloc h resolution r ∧
      ∃ e, (setMapData alloc x y resolution dimX dimY src).run h = .error e h) ∨
    (¬Refused alloc h resolution r ∧
      ∃ h', (setMapData alloc x y resolution dimX dimY src).run h = .ok () h' ∧
        h'.availCellIdxRect = if sfDoesCellIdxRectContainRect h.availCellIdxRect r
          then h.availCellIdxRect else roomFor h r) := by
  have hne : ¬sfIsCellIdxRectEmpty r := by
    rw [hr]
    exact not_empty_iff.mpr ⟨hdimX, hdimY⟩
  have hdim : ¬(dimX < 1 ∨ dimY < 1) := by omega
  cases heq : sfCheckResolutionEquality resolution h.resolution with
  | error e => exact Or.inl ⟨Or.inl ⟨e, heq⟩, e, by simp [setMapData, hdim, heq]⟩
  | ok u =>
      have hvalid : ¬∃ e, sfCheckResolutionEquality resolution h.resolution = .error e := by
        simp [heq]
      by_cases hc : sfDoesCellIdxRectContainRect h.availCellIdxRect r
      · have hext : (checkToExtendMap alloc r).run h = .ok () h := by
          rw [checkToExtendMap_eq hI alloc hne, if_pos hc]
        rw [hr] at hext
        obtain ⟨h', hrun, havail⟩ := setMapData_of_extended hI hdimX hdimY hsrc heq hext
        exact Or.inr ⟨fun href => href.elim hvalid fun hout => hout.1 hc, h', hrun,
          by rw [if_pos hc, havail]⟩
      · have hextend := checkToExtendMap_avail hI alloc hne hc
        split_ifs at hextend with halloc
        · obtain ⟨h₁, hext, havail₁⟩ := hextend
          rw [hr] at hext
          obtain ⟨h', hrun, havail⟩ := setMapData_of_extended hI hdimX hdimY hsrc heq hext
          refine Or.inr ⟨fun href => href.elim hvalid fun hout => ?_, h', hrun,
            by rw [if_neg hc, havail, havail₁]⟩
          exact Bool.false_ne_true (hout.2.symm.trans halloc)
        · exact Or.inl ⟨Or.inr ⟨hc, by simpa using halloc⟩, .badAlloc,
            by simp [setMapData, hdim, heq, ← hr, hextend]⟩

/-! ## Empty room lies at the origin -/

def EmptyAtOrigin (h : ServerMapHolder F) : Prop :=
  sfIsCellIdxRectEmpty h.availCellIdxRect → h.availCellIdxRect = {}

theorem roomFor_not_empty {h : ServerMapHolder F} (hI : Inv h) {r : RectangleI}
    (hr : ¬sfIsCellIdxRectEmpty r) : ¬sfIsCellIdxRectEmpty (roomFor h r) :=
  not_empty_of_within (merge_not_empty (not_empty_of_within hr (within_extendedCellIdxRect hI)))
    (within_alignedHull _)

theorem setMapData_emptyAtOrigin {h h' : ServerMapHolder F} (hI : Inv h) (h0 : EmptyAtOrigin h)
    {alloc : ℕ → Bool} {x y resolution : F} {dimX dimY : ℤ} {src : ℤ → Option UInt8}
    (hsrc : ∀ i, 0 ≤ i → i < dimX * dimY → (src i).isSome)
    (hrun : (setMapData alloc x y resolution dimX dimY src).run h = .ok () h') :
    EmptyAtOrigin h' := by
  by_cases hdim : dimX < 1 ∨ dimY < 1
  · simp only [setMapData, if_pos hdim] at hrun
    cases hrun
    exact h0
  · have hne : ¬sfIsCellIdxRectEmpty (cellIdxRectToUp h.resolution x y dimX dimY) :=
      fun he => hdim (he.imp Int.lt_add_one_iff.mpr Int.lt_add_one_iff.mpr)
    rcases setMapData_avail hI alloc x y resolution (by omega) (by omega) hsrc rfl with
      ⟨-, e, herr⟩ | ⟨-, h₁, hok, havail⟩
    · rw [hrun] at herr
      cases herr
    · rw [hrun] at hok
      cases hok
      unfold EmptyAtOrigin
      rw [havail]
      split_ifs with hc
      · exact h0
      · exact fun he => absurd he (roomFor_not_empty hI hne)

theorem reserve_emptyAtOrigin {h h' : ServerMapHolder F} (hI : Inv h) (h0 : EmptyAtOrigin h)
    {alloc : ℕ → Bool} {r : RectangleI} (hrun : (reserveByCellIdxRect alloc r).run h = .ok () h') :
    EmptyAtOrigin h' := by
  obtain ⟨h₁, hok, hgrown, hwithin⟩ | herr := reserveByCellIdxRect_spec hI alloc r
  · rw [hrun] at hok
    cases hok
    by_cases hr : sfIsCellIdxRectEmpty r
    · simp only [reserveByCellIdxRect, if_pos hr] at hrun
      cases hrun
      exact h0
    · exact fun he => absurd he (not_empty_of_within hr (hwithin hr))
  · rw [hrun] at herr
    cases herr

theorem exec_emptyAtOrigin {h h' : ServerMapHolder F} (hI : Inv h) (h0 : EmptyAtOrigin h)
    {alloc : ℕ → Bool} {call : HolderCall F} (hrun : (call.exec alloc).run h = .ok () h') :
    EmptyAtOrigin h' := by
  cases call with
  | clear =>
      cases hrun
      exact fun _ => rfl
  | reinit resolution =>
      rcases checkResolutionValidity_spec resolution with ⟨hok, -⟩ | ⟨what, herr⟩
      · simp only [HolderCall.exec, reinit, EStateM.run_bind, hok, run_ofExcept_ok] at hrun
        cases hrun
        exact fun _ => rfl
      · simp [HolderCall.exec, reinit, herr] at hrun
  | setMoreCellCountToExtend n =>
      cases hrun
      exact h0
  | reserveByCellIdxRect r => exact reserve_emptyAtOrigin hI h0 hrun
  | reserveByArea a =>
      simp only [HolderCall.exec] at hrun
      rcases reserveByArea_cases alloc a h with hcall | ⟨e, -, hcall⟩ | ⟨r, hcall⟩
      · rw [hcall] at hrun
        cases hrun
        exact h0
      · rw [hcall] at hrun
        cases hrun
      · exact reserve_emptyAtOrigin hI h0 (hcall.symm.trans hrun)
  | setMapData x y resolution dimX dimY srcDat =>
      exact setMapData_emptyAtOrigin hI h0 (fun _ _ _ => rfl) hrun
  | setMapDataOfMap hMap =>
      cases hMap with
      | none =>
          cases hrun
          exact h0
      | some m =>
          simp only [HolderCall.exec] at hrun
          rcases setMapDataOfMap_cases alloc m h with ⟨what, hcall⟩ | ⟨hlength, hcall⟩
          · rw [hcall] at hrun
            cases hrun
          · exact setMapData_emptyAtOrigin hI h0
              (fun i hi0 hi => StridedCopy.ofList_isSome hi0 (by omega)) (hcall.symm.trans hrun)

theorem runCalls_emptyAtOrigin {h : ServerMapHolder F} (hI : Inv h) (h0 : EmptyAtOrigin h)
    (calls : List ((ℕ → Bool) × HolderCall F)) : EmptyAtOrigin (runCalls h calls) := by
  induction calls generalizing h with
  | nil => exact h0
  | cons c calls ih =>
      obtain ⟨alloc, call⟩ := c
      rcases exec_spec hI alloc call with ⟨h', hrun, hexec⟩ | ⟨e, hrun, -⟩
      · rw [runCalls_ok hrun]
        exact ih hexec.inv (exec_emptyAtOrigin hI h0 hrun)
      · rw [runCalls_error hrun]
        exact ih hI h0

/-! ## The bound -/

/-- The room after writing a block lies in the hull of the old room and the block with
`moreCellCntToExtend` cells on each side. -/
def GrowthBounded (alloc : ℕ → Bool) (h : ServerMapHolder F) (x y resolution : F)
    (dimX dimY : ℤ) (srcDat : ℕ → UInt8) : Prop :=
  let h' := runCalls h [(alloc, .setMapData x y resolution dimX dimY srcDat)]
  let block := cellIdxRectToUp h.resolution x y dimX dimY
  ∀ cellX cellY, sfDoesCellIdxRectContain h'.availCellIdxRect cellX cellY →
    sfDoesCellIdxRectContain
      (alignedHull (mergedRect h.availCellIdxRect (enlarged h.moreCellCntToExtend block)))
      cellX cellY

/-- The block with its margin comes within one alignment step of the origin cell on both axes. -/
def NearOrigin (more : ℤ) (r : RectangleI) : Prop :=
  r.x - more < 16 ∧ -16 < r.x + r.width + more ∧
    r.y - more < 16 ∧ -16 < r.y + r.height + more

/-- Against old room the margins are those of the enlarged block. -/
theorem extended_within_of_avail {h : ServerMapHolder F} (hI : Inv h) {r : RectangleI}
    (hr : ¬sfIsCellIdxRectEmpty r) (havail : ¬sfIsCellIdxRectEmpty h.availCellIdxRect) :
    Within (roomFor h r)
      (alignedHull (mergedRect h.availCellIdxRect (enlarged h.moreCellCntToExtend r))) := by
  have hmore := hI.more_nonneg
  have henlarged := not_empty_of_within hr (within_enlarged hmore r)
  have hext := not_empty_of_within hr (within_extendedCellIdxRect hI)
  refine alignedHull_mono (merge_within (fun _ => within_merge_left havail) (fun _ => ?_)
    (merge_not_empty hext))
  have hleft := within_merge_left (B := enlarged h.moreCellCntToExtend r) havail
  have hright := within_merge_right (A := h.availCellIdxRect) henlarged
  simp only [Within, enlarged, extendedCellIdxRect] at *
  split_ifs <;> omega

/-- Without old room the first block is compared with the origin. -/
theorem roomFor_within_iff {h : ServerMapHolder F} (hI : Inv h) {r : RectangleI}
    (hr : ¬sfIsCellIdxRectEmpty r) (havail : h.availCellIdxRect = {}) :
    Within (roomFor h r)
        (alignedHull (mergedRect h.availCellIdxRect (enlarged h.moreCellCntToExtend r))) ↔
      NearOrigin h.moreCellCntToExtend r := by
  have hmore := hI.more_nonneg
  have henlarged := not_empty_of_within hr (within_enlarged hmore r)
  have hext := not_empty_of_within hr (within_extendedCellIdxRect hI)
  have hmerge : ∀ s, ¬sfIsCellIdxRectEmpty s → mergedRect h.availCellIdxRect s = s := by
    intro s hs
    rw [havail, mergedRect, if_neg hs, if_pos empty_default]
  obtain ⟨hw, hh⟩ := not_empty_iff.mp hr
  rw [roomFor, hmerge _ hext, hmerge _ henlarged]
  simp only [Within, alignedHull, enlarged, extendedCellIdxRect, havail, NearOrigin]
  split_ifs <;> omega

/-- The bound holds exactly if there is room already, the block is turned away, or the
first block lies near the origin. -/
theorem growth_bounded_iff (calls : List ((ℕ → Bool) × HolderCall F)) (alloc : ℕ → Bool)
    (x y resolution : F) {dimX dimY : ℤ} (hdimX : 1 ≤ dimX) (hdimY : 1 ≤ dimY)
    (srcDat : ℕ → UInt8) :
    let h := runCalls (new : ServerMapHolder F) calls
    let block := cellIdxRectToUp h.resolution x y dimX dimY
    GrowthBounded alloc h x y resolution dimX dimY srcDat ↔
      ¬sfIsCellIdxRectEmpty h.availCellIdxRect ∨ Refused alloc h resolution block ∨
        NearOrigin h.moreCellCntToExtend block := by
  intro h block
  have hI : Inv h := runCalls_inv inv_new calls
  have h0 : EmptyAtOrigin h := runCalls_emptyAtOrigin inv_new (fun _ => rfl) calls
  have hne : ¬sfIsCellIdxRectEmpty block := not_empty_iff.mpr ⟨hdimX, hdimY⟩
  have hkeep : ¬sfIsCellIdxRectEmpty h.availCellIdxRect → Within h.availCellIdxRect
      (alignedHull (mergedRect h.availCellIdxRect (enlarged h.moreCellCntToExtend block))) :=
    fun havail => (within_merge_left havail).trans (within_alignedHull _)
  unfold GrowthBounded
  have hsrc : ∀ i : ℤ, 0 ≤ i → i < dimX * dimY → (some (srcDat i.toNat)).isSome :=
    fun _ _ _ => rfl
  rcases setMapData_avail hI alloc x y resolution hdimX hdimY hsrc (r := block) rfl with
    ⟨href, e, hrun⟩ | ⟨href, h', hrun, havail'⟩
  · have hcall : ((HolderCall.setMapData x y resolution dimX dimY srcDat).exec alloc).run h =
        .error e h := hrun
    rw [runCalls_error hcall]
    refine iff_of_true (fun cellX cellY hcell => ?_) (Or.inr (Or.inl href))
    exact (hkeep (not_empty_of_contain hcell)).contain hcell
  · have hcall : ((HolderCall.setMapData x y resolution dimX dimY srcDat).exec alloc).run h =
        .ok () h' := hrun
    rw [runCalls_ok hcall, runCalls]
    simp only [havail']
    by_cases havail : sfIsCellIdxRectEmpty h.availCellIdxRect
    · have hout : ¬sfDoesCellIdxRectContainRect h.availCellIdxRect block := fun hc => hc.1 havail
      have hroom := roomFor_not_empty hI hne
      rw [if_neg hout]
      calc (∀ cellX cellY, sfDoesCellIdxRectContain (roomFor h block) cellX cellY →
            sfDoesCellIdxRectContain (alignedHull (mergedRect h.availCellIdxRect
              (enlarged h.moreCellCntToExtend block))) cellX cellY)
          ↔ Within (roomFor h block) (alignedHull (mergedRect h.availCellIdxRect
              (enlarged h.moreCellCntToExtend block))) :=
            ⟨within_of_contain hroom, fun hin _ _ => hin.contain⟩
        _ ↔ NearOrigin h.moreCellCntToExtend block := roomFor_within_iff hI hne (h0 havail)
        _ ↔ _ := by simp only [havail, not_true, href, false_or]
    · refine iff_of_true (fun cellX cellY hcell => ?_) (Or.inl havail)
      split_ifs at hcell with hc
      · exact (hkeep havail).contain hcell
      · exact (extended_within_of_avail hI hne havail).contain hcell

/-- A first block of one cell next to the origin. -/
theorem growth_bounded_near : GrowthBounded (fun _ => true) (new : ServerMapHolder ℚ)
    (1 / 20) (-1 / 20) (1 / 20) 1 1 fun _ => 200 := by
  refine (growth_bounded_iff (F := ℚ) [] (fun _ => true) (1 / 20) (-1 / 20) (1 / 20)
    le_rfl le_rfl fun _ => 200).mpr (Or.inr (Or.inr ?_))
  unfold NearOrigin
  decide +kernel

/-- The first block need not come near the origin. -/
theorem growth_not_bounded : ¬ ∀ (calls : List ((ℕ → Bool) × HolderCall ℚ)) (alloc : ℕ → Bool)
    (x y resolution : ℚ) (dimX dimY : ℤ) (srcDat : ℕ → UInt8), 1 ≤ dimX → 1 ≤ dimY →
      GrowthBounded alloc (runCalls new calls) x y resolution dimX dimY srcDat := by
  intro hall
  have hbounded := hall [] (fun _ => true) 5 0 (1 / 20) 1 1 (fun _ => 200) le_rfl le_rfl
  have hone : (1 : ℤ) ≤ 1 := le_rfl
  have hsrc : ∀ i : ℤ, 0 ≤ i → i < 1 * 1 → (some (200 : UInt8)).isSome := fun _ _ _ => rfl
  rcases setMapData_avail (inv_new (F := ℚ)) (fun _ => true) 5 0 (1 / 20) hone hone hsrc rfl with
    ⟨⟨e, he⟩ | ⟨-, halloc⟩, -⟩ | ⟨-, h', hrun, havail'⟩
  · have hvalid : sfCheckResolutionEquality (1 / 20 : ℚ) (new : ServerMapHolder ℚ).resolution =
        .ok () := by decide +kernel
    exact absurd (hvalid.symm.trans he) (by simp)
  · cases halloc
  · unfold GrowthBounded at hbounded
    have hcall : ((HolderCall.setMapData (5 : ℚ) 0 (1 / 20) 1 1 fun _ => 200).exec
        fun _ => true).run new = .ok () h' := hrun
    rw [runCalls, runCalls_ok hcall, runCalls] at hbounded
    have hcell := hbounded 0 0 (by rw [havail']; decide +kernel)
    exact absurd hcell (by decide +kernel)

end Ros2WsDemo.ServerMapHolder

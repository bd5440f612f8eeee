import Ros2WsDemo.MapHolder.CellBuffer
import Ros2WsDemo.MapHolder.CellMap

/-!
# The representation invariant of `ServerMapHolder`

Growing the buffer is described once, by `GrownTo`: room is added and every cell
keeps its byte.  Each operation then has one specification, which says what it
does to the cells when it returns and that nothing has changed when it throws.
-/

namespace Ros2WsDemo.ServerMapHolder

open StridedCopy

section Run

variable {F α : Type}

@[simp] theorem run_ofExcept_ok (a : α) (h : ServerMapHolder F) :
    (ofExcept (.ok a : Except Exn α) : HolderM F α).run h = .ok a h := rfl

@[simp] theorem run_ofExcept_error (e : Exn) (h : ServerMapHolder F) :
    (ofExcept (.error e : Except Exn α) : HolderM F α).run h = .error e h := rfl

end Run

variable {F : Type} [FloatArith F]

structure Inv (h : ServerMapHolder F) : Prop where
  more_nonneg : 0 ≤ h.moreCellCntToExtend
  resolution_valid : FloatArith.lt FloatArith.epsilon h.resolution = true
  avail_size : 0 ≤ h.availCellIdxRect.width ∧ 0 ≤ h.availCellIdxRect.height
  mapDat_length : (h.mapDat.length : ℤ) = h.availCellIdxRect.width * h.availCellIdxRect.height
  avail_aligned : sfIsCellIdxRectEmpty h.availCellIdxRect ∨ Aligned h.availCellIdxRect
  valid_within : sfIsCellIdxRectEmpty h.validCellIdxRect ∨
    Within h.validCellIdxRect h.availCellIdxRect
  outside_zero : ∀ x y, ¬sfDoesCellIdxRectContain h.validCellIdxRect x y → byteAt h x y = 0

theorem empty_default : sfIsCellIdxRectEmpty {} := Or.inl le_rfl

theorem not_contain_of_empty {r : RectangleI} (hr : sfIsCellIdxRectEmpty r) (x y : ℤ) :
    ¬sfDoesCellIdxRectContain r x y :=
  fun h => not_empty_of_contain h hr

omit [FloatArith F] in
theorem byteAt_of_empty {h : ServerMapHolder F} (he : sfIsCellIdxRectEmpty h.availCellIdxRect)
    (x y : ℤ) : byteAt h x y = 0 :=
  cellOf_of_not_contain (not_contain_of_empty he x y) _

theorem inv_new : Inv (new : ServerMapHolder F) where
  more_nonneg := by simp [new, defaultMoreCellCntToExtend]
  resolution_valid := by simp [new, FloatArith.lt, FloatArith.resolution005_valid]
  avail_size := ⟨le_rfl, le_rfl⟩
  mapDat_length := rfl
  avail_aligned := Or.inl empty_default
  valid_within := Or.inl empty_default
  outside_zero x y _ := byteAt_of_empty empty_default x y

/-! ## Growing -/

/-- `h'` is `h` with more room and the same cells. -/
structure GrownTo (h h' : ServerMapHolder F) : Prop where
  inv : Inv h'
  resolution_eq : h'.resolution = h.resolution
  valid_eq : h'.validCellIdxRect = h.validCellIdxRect
  avail_within : ¬sfIsCellIdxRectEmpty h.availCellIdxRect →
    Within h.availCellIdxRect h'.availCellIdxRect
  byteAt_eq : ∀ x y, byteAt h' x y = byteAt h x y

theorem GrownTo.refl {h : ServerMapHolder F} (hI : Inv h) : GrownTo h h where
  inv := hI
  resolution_eq := rfl
  valid_eq := rfl
  avail_within _ := Within.refl _
  byteAt_eq _ _ := rfl

theorem Inv.not_empty_avail {h : ServerMapHolder F} (hI : Inv h)
    (hv : ¬sfIsCellIdxRectEmpty h.validCellIdxRect) : ¬sfIsCellIdxRectEmpty h.availCellIdxRect :=
  not_empty_of_within hv (hI.valid_within.resolve_left hv)

theorem Inv.contain_avail {h : ServerMapHolder F} (hI : Inv h) {x y : ℤ}
    (hv : sfDoesCellIdxRectContain h.validCellIdxRect x y) :
    sfDoesCellIdxRectContain h.availCellIdxRect x y :=
  (hI.valid_within.resolve_left (not_empty_of_contain hv)).contain hv

/-- The buffer has a byte for every available cell. -/
theorem Inv.stored {h : ServerMapHolder F} (hI : Inv h) {x y : ℤ}
    (ha : sfDoesCellIdxRectContain h.availCellIdxRect x y) :
    ofList h.mapDat (cellOffset h.availCellIdxRect x y) = some (byteAt h x y) := by
  obtain ⟨b, hb⟩ := Option.isSome_iff_exists.mp
    (ofList_isSome_of_contain hI.mapDat_length.ge ha)
  rw [byteAt, cellOf_of_contain ha, hb, Option.getD_some]

/-- In a buffer which holds the valid cells, the copy loop reproduces every cell. -/
theorem copyValidCells_spec {h : ServerMapHolder F} (hI : Inv h)
    (hv : ¬sfIsCellIdxRectEmpty h.validCellIdxRect) {avail : RectangleI}
    (hwithin : Within h.validCellIdxRect avail) :
    ∃ dat, copyValidCells h avail (List.replicate (avail.width * avail.height).toNat 0) = .ok dat ∧
      (dat.length : ℤ) = avail.width * avail.height ∧
      ∀ x y, cellOf avail dat x y = byteAt h x y := by
  obtain ⟨hw, hh⟩ := not_empty_iff.mp hv
  obtain ⟨haw, hah⟩ := not_empty_iff.mp (not_empty_of_within hv hwithin)
  have hold : Within h.validCellIdxRect h.availCellIdxRect := hI.valid_within.resolve_left hv
  have hsize : ((avail.width * avail.height).toNat : ℤ) = avail.width * avail.height :=
    Int.toNat_of_nonneg (mul_nonneg haw.le hah.le)
  obtain ⟨dat, hcopy, hlen, hread⟩ := copyRows_cells id (ofList h.mapDat) h.availCellIdxRect avail
    h.validCellIdxRect (List.replicate (avail.width * avail.height).toNat (0 : UInt8)) hv hwithin
    (by rw [List.length_replicate, hsize])
    (fun x y hxy => ofList_isSome_of_contain hI.mapDat_length.ge (hold.contain hxy))
  refine ⟨dat, ?_, by rw [hlen, List.length_replicate, hsize], ?_⟩
  · obtain ⟨hx0, hx1, hy0, hy1⟩ := hwithin
    simp only [cellOffset] at hcopy
    simp only [copyValidCells]
    rw [boostAssert_of ⟨by omega, by omega⟩, boostAssert_of (by omega),
      boostAssert_of ⟨by omega, by omega⟩, boostAssert_of (by omega)]
    simp only [except_ok_bind, hcopy, inBuffer]
  · intro x y
    by_cases hxy : sfDoesCellIdxRectContain avail x y
    · rw [cellOf_of_contain hxy, hread x y hxy]
      by_cases hval : sfDoesCellIdxRectContain h.validCellIdxRect x y
      · rw [if_pos hval, Option.map_id, byteAt, cellOf_of_contain (hold.contain hval)]
        rfl
      · obtain ⟨h0, h1⟩ := cellOffset_bounds hxy
        rw [if_neg hval, ofList_replicate h0 (by rw [hsize]; exact h1), hI.outside_zero x y hval]
        rfl
    · rw [cellOf_of_not_contain hxy, hI.outside_zero x y fun hval => hxy (hwithin.contain hval)]

/-- The computation of `reserveByCellIdxRect` can only fail in the allocator. -/
theorem growTo_spec {h : ServerMapHolder F} (hI : Inv h) (alloc : ℕ → Bool) {r : RectangleI}
    (hr : ¬sfIsCellIdxRectEmpty r) :
    (∃ avail dat, growTo alloc h r = .ok (avail, dat) ∧ Aligned avail ∧
      ¬sfIsCellIdxRectEmpty avail ∧ Within r avail ∧
      (¬sfIsCellIdxRectEmpty h.availCellIdxRect → Within h.availCellIdxRect avail) ∧
      (dat.length : ℤ) = avail.width * avail.height ∧
      ∀ x y, cellOf avail dat x y = byteAt h x y) ∨
    growTo alloc h r = .error .badAlloc := by
  obtain ⟨avail, hadj, haligned, hmerged, -⟩ :=
    adjusted_spec (merge_not_empty (A := h.availCellIdxRect) hr)
  have hrav : Within r avail := (within_merge_right hr).trans hmerged
  have hne : ¬sfIsCellIdxRectEmpty avail := not_empty_of_within hr hrav
  have hgrow : ¬sfIsCellIdxRectEmpty h.availCellIdxRect → Within h.availCellIdxRect avail :=
    fun ha => (within_merge_left ha).trans hmerged
  simp only [growTo, merge_eq, hadj, except_ok_bind, allocZero]
  by_cases halloc : alloc (avail.width * avail.height).toNat
  · left
    rw [if_pos halloc]
    by_cases hv : sfIsCellIdxRectEmpty h.validCellIdxRect
    · obtain ⟨haw, hah⟩ := not_empty_iff.mp hne
      refine ⟨avail, _, by simp only [if_pos hv, except_ok_bind]; rfl, haligned, hne, hrav, hgrow,
        ?_, ?_⟩
      · rw [List.length_replicate, Int.toNat_of_nonneg (mul_nonneg haw.le hah.le)]
      · intro x y
        rw [hI.outside_zero x y (not_contain_of_empty hv x y)]
        by_cases hxy : sfDoesCellIdxRectContain avail x y
        · obtain ⟨h0, h1⟩ := cellOffset_bounds hxy
          rw [cellOf_of_contain hxy, ofList_replicate h0 (by omega)]
          rfl
        · exact cellOf_of_not_contain hxy _
    · obtain ⟨dat, hcopy, hlen, hcells⟩ := copyValidCells_spec hI hv
        ((hI.valid_within.resolve_left hv).trans (hgrow (hI.not_empty_avail hv)))
      exact ⟨avail, dat, by simp only [if_neg hv, except_ok_bind, hcopy]; rfl, haligned, hne,
        hrav, hgrow, hlen, hcells⟩
  · right
    rw [if_neg halloc]
    rfl

theorem grownTo_of {h : ServerMapHolder F} (hI : Inv h) {avail : RectangleI} {dat : List UInt8}
    (haligned : Aligned avail) (hne : ¬sfIsCellIdxRectEmpty avail)
    (hmono : ¬sfIsCellIdxRectEmpty h.availCellIdxRect → Within h.availCellIdxRect avail)
    (hlen : (dat.length : ℤ) = avail.width * avail.height)
    (hcells : ∀ x y, cellOf avail dat x y = byteAt h x y) (area : RectangleF F) :
    GrownTo h { h with availCellIdxRect := avail, availMapArea := area, mapDat := dat } where
  inv :=
    { more_nonneg := hI.more_nonneg
      resolution_valid := hI.resolution_valid
      avail_size := ⟨(not_empty_iff.mp hne).1.le, (not_empty_iff.mp hne).2.le⟩
      mapDat_length := hlen
      avail_aligned := Or.inr haligned
      valid_within := or_iff_not_imp_left.mpr fun hv =>
        (hI.valid_within.resolve_left hv).trans (hmono (hI.not_empty_avail hv))
      outside_zero := fun x y hxy => (hcells x y).trans (hI.outside_zero x y hxy) }
  resolution_eq := rfl
  valid_eq := rfl
  avail_within := hmono
  byteAt_eq := hcells

theorem reserveByCellIdxRect_spec {h : ServerMapHolder F} (hI : Inv h) (alloc : ℕ → Bool)
    (r : RectangleI) :
    (∃ h', (reserveByCellIdxRect alloc r).run h = .ok () h' ∧ GrownTo h h' ∧
      (¬sfIsCellIdxRectEmpty r → Within r h'.availCellIdxRect)) ∨
    (reserveByCellIdxRect alloc r).run h = .error .badAlloc h := by
  by_cases hr : sfIsCellIdxRectEmpty r
  · exact Or.inl ⟨h, by simp [reserveByCellIdxRect, hr], GrownTo.refl hI, fun h => absurd hr h⟩
  by_cases hc : sfDoesCellIdxRectContainRect h.availCellIdxRect r
  · exact Or.inl ⟨h, by simp [reserveByCellIdxRect, hr, hc], GrownTo.refl hI,
      fun _ => ((containRect_iff hr).mp hc).2⟩
  obtain ⟨avail, dat, hgrow, haligned, hne, hrav, hmono, hlen, hcells⟩ | hgrow :=
    growTo_spec hI alloc hr
  · obtain ⟨area, harea⟩ : ∃ area, sfCalcAreaByCellIdxRect h.resolution avail = .ok area :=
      ⟨_, calcArea_eq hI.resolution_valid avail⟩
    have hrun : (reserveByCellIdxRect alloc r).run h = .ok () { h with
        availCellIdxRect := avail
        availMapArea := area
        mapDat := dat } := by
      simp [reserveByCellIdxRect, hr, hc, hgrow, harea]
    exact Or.inl ⟨_, hrun, grownTo_of hI haligned hne hmono hlen hcells area, fun _ => hrav⟩
  · exact Or.inr (by simp [reserveByCellIdxRect, hr, hc, hgrow])

/-- The rectangle asked for on behalf of an update holds the update. -/
theorem within_extendedCellIdxRect {h : ServerMapHolder F} (hI : Inv h) {r : RectangleI} :
    Within r (extendedCellIdxRect h r) := by
  have hmore := hI.more_nonneg
  simp only [Within, extendedCellIdxRect]
  split_ifs <;> omega

/-- A block that sticks out asks for room with a margin. -/
theorem checkToExtendMap_eq {h : ServerMapHolder F} (hI : Inv h) (alloc : ℕ → Bool)
    {r : RectangleI} (hr : ¬sfIsCellIdxRectEmpty r) : (checkToExtendMap alloc r).run h =
      if sfDoesCellIdxRectContainRect h.availCellIdxRect r then .ok () h
      else (reserveByCellIdxRect alloc (extendedCellIdxRect h r)).run h := by
  obtain ⟨hw, hh⟩ := not_empty_iff.mp (not_empty_of_within hr (within_extendedCellIdxRect hI))
  simp only [checkToExtendMap, EStateM.run_bind, EStateM.run_get, boostAssert_of hI.more_nonneg,
    boostAssert_of hI.avail_size.1, boostAssert_of hI.avail_size.2, run_ofExcept_ok, if_neg hr]
  split_ifs
  · rfl
  · simp only [EStateM.run_bind, boostAssert_of hw, boostAssert_of hh, run_ofExcept_ok]

theorem checkToExtendMap_spec {h : ServerMapHolder F} (hI : Inv h) (alloc : ℕ → Bool)
    {r : RectangleI} (hr : ¬sfIsCellIdxRectEmpty r) :
    (∃ h', (checkToExtendMap alloc r).run h = .ok () h' ∧ GrownTo h h' ∧
      Within r h'.availCellIdxRect) ∨
    (checkToExtendMap alloc r).run h = .error .badAlloc h := by
  rw [checkToExtendMap_eq hI alloc hr]
  split_ifs with hc
  · exact Or.inl ⟨h, rfl, GrownTo.refl hI, ((containRect_iff hr).mp hc).2⟩
  · have hext := within_extendedCellIdxRect hI (r := r)
    obtain ⟨h', hrun, hgrown, hin⟩ | hrun :=
      reserveByCellIdxRect_spec hI alloc (extendedCellIdxRect h r)
    · exact Or.inl ⟨h', hrun, hgrown, hext.trans (hin (not_empty_of_within hr hext))⟩
    · exact Or.inr hrun

/-! ## Writing and reading -/

/-- `h'` is `h` after the cells of `rect` were written from a row-major block. -/
structure WrittenTo (rect : RectangleI) (src : ℤ → Option UInt8) (h h' : ServerMapHolder F) :
    Prop where
  inv : Inv h'
  resolution_eq : h'.resolution = h.resolution
  valid_eq : h'.validCellIdxRect = mergedRect h.validCellIdxRect rect
  avail_within : ¬sfIsCellIdxRectEmpty h.availCellIdxRect →
    Within h.availCellIdxRect h'.availCellIdxRect
  byteAt_eq : ∀ x y, byteAt h' x y =
    if sfDoesCellIdxRectContain rect x y then (src (cellOffset rect x y)).getD 0 else byteAt h x y

theorem checkResolutionValidity_spec (resolution : F) :
    (sfCheckResolutionValidity resolution = .ok () ∧
      FloatArith.lt FloatArith.epsilon resolution = true) ∨
    ∃ what, sfCheckResolutionValidity resolution = .error (.runtimeError what) := by
  unfold sfCheckResolutionValidity
  cases hle : FloatArith.le resolution FloatArith.epsilon with
  | true => exact Or.inr ⟨_, rfl⟩
  | false => exact Or.inl ⟨rfl, by simp [FloatArith.lt, hle]⟩

theorem checkResolutionEquality_spec (resA resB : F) :
    (sfCheckResolutionEquality resA resB = .ok () ∧ FloatArith.fequal resA resB = true) ∨
    ∃ what, sfCheckResolutionEquality resA resB = .error (.runtimeError what) := by
  unfold sfCheckResolutionEquality
  cases heq : FloatArith.fequal resA resB with
  | false => exact Or.inr ⟨_, rfl⟩
  | true =>
      rcases checkResolutionValidity_spec resA with ⟨hA, -⟩ | ⟨what, hA⟩
      · rcases checkResolutionValidity_spec resB with ⟨hB, -⟩ | ⟨what, hB⟩
        · exact Or.inl ⟨by simp [hA, hB], rfl⟩
        · exact Or.inr ⟨what, by simp [hA, hB]⟩
      · exact Or.inr ⟨what, by simp [hA]⟩

omit [FloatArith F] in
/-- For a block that lies in the available cells no assertion fails. -/
theorem copyBlock_eq {h : ServerMapHolder F} {rect : RectangleI}
    (hne : ¬sfIsCellIdxRectEmpty rect) (hwithin : Within rect h.availCellIdxRect)
    (src : ℤ → Option UInt8) :
    copyBlock h rect src = inBuffer (copyRows id src rect.width.toNat rect.width
      h.availCellIdxRect.width rect.height.toNat 0
      (cellOffset h.availCellIdxRect rect.x rect.y) h.mapDat) := by
  obtain ⟨hw, hh⟩ := not_empty_iff.mp hne
  obtain ⟨hx0, hx1, hy0, hy1⟩ := hwithin
  simp only [copyBlock]
  rw [boostAssert_of ⟨by omega, by omega⟩, boostAssert_of (by omega),
    boostAssert_of ⟨by omega, by omega⟩, boostAssert_of (by omega)]
  simp only [except_ok_bind, cellOffset]

theorem copyBlock_spec {h : ServerMapHolder F} (hI : Inv h) {rect : RectangleI}
    (hne : ¬sfIsCellIdxRectEmpty rect) (hwithin : Within rect h.availCellIdxRect)
    {src : ℤ → Option UInt8}
    (hsrc : ∀ x y, sfDoesCellIdxRectContain rect x y → (src (cellOffset rect x y)).isSome) :
    ∃ dat, copyBlock h rect src = .ok dat ∧ dat.length = h.mapDat.length ∧
      ∀ x y, cellOf h.availCellIdxRect dat x y =
        if sfDoesCellIdxRectContain rect x y then (src (cellOffset rect x y)).getD 0
        else byteAt h x y := by
  obtain ⟨dat, hcopy, hlen, hread⟩ := copyRows_cells id src rect h.availCellIdxRect rect h.mapDat
    hne hwithin hI.mapDat_length.ge hsrc
  have horigin : cellOffset rect rect.x rect.y = 0 := by simp [cellOffset]
  rw [horigin] at hcopy
  refine ⟨dat, by rw [copyBlock_eq hne hwithin, hcopy, inBuffer], hlen, ?_⟩
  intro x y
  by_cases hxy : sfDoesCellIdxRectContain h.availCellIdxRect x y
  · rw [cellOf_of_contain hxy, hread x y hxy, byteAt, cellOf_of_contain hxy]
    split_ifs with hin
    · rw [Option.map_id]
      rfl
    · rfl
  · rw [cellOf_of_not_contain hxy, if_neg fun hin => hxy (hwithin.contain hin), byteAt,
      cellOf_of_not_contain hxy]

theorem writtenTo_of {h h₁ : ServerMapHolder F} (hgrown : GrownTo h h₁) {rect : RectangleI}
    (hne : ¬sfIsCellIdxRectEmpty rect) (hwithin : Within rect h₁.availCellIdxRect)
    {src : ℤ → Option UInt8} {dat : List UInt8} (hlen : dat.length = h₁.mapDat.length)
    (hcells : ∀ x y, cellOf h₁.availCellIdxRect dat x y =
      if sfDoesCellIdxRectContain rect x y then (src (cellOffset rect x y)).getD 0
      else byteAt h₁ x y) (area : RectangleF F) :
    WrittenTo rect src h { h₁ with
      mapDat := dat
      validCellIdxRect := mergedRect h₁.validCellIdxRect rect
      validMapArea := area } := by
  have hI := hgrown.inv
  refine ⟨⟨hI.more_nonneg, hI.resolution_valid, hI.avail_size, ?_, hI.avail_aligned, ?_, ?_⟩,
    hgrown.resolution_eq, by rw [← hgrown.valid_eq], hgrown.avail_within, ?_⟩
  · exact (congrArg Nat.cast hlen).trans hI.mapDat_length
  · exact Or.inr (merge_within hI.valid_within.resolve_left (fun _ => hwithin)
      (merge_not_empty hne))
  · intro x y hxy
    refine (hcells x y).trans ?_
    rw [if_neg fun hin => hxy ((within_merge_right hne).contain hin)]
    refine hI.outside_zero x y fun hin => hxy ?_
    exact (within_merge_left (not_empty_of_contain hin)).contain hin
  · intro x y
    rw [← hgrown.byteAt_eq]
    exact hcells x y

theorem WrittenTo.of_empty {h : ServerMapHolder F} (hI : Inv h) {rect : RectangleI}
    (hr : sfIsCellIdxRectEmpty rect) (src : ℤ → Option UInt8) : WrittenTo rect src h h where
  inv := hI
  resolution_eq := rfl
  valid_eq := by rw [mergedRect, if_pos hr]
  avail_within _ := Within.refl _
  byteAt_eq x y := by rw [if_neg (not_contain_of_empty hr x y)]

theorem setMapData_spec {h : ServerMapHolder F} (hI : Inv h) (alloc : ℕ → Bool)
    (x y resolution : F) (dimX dimY : ℤ) (src : ℤ → Option UInt8)
    (hsrc : ∀ i, 0 ≤ i → i < dimX * dimY → (src i).isSome) :
    (∃ h', (setMapData alloc x y resolution dimX dimY src).run h = .ok () h' ∧
      WrittenTo (cellIdxRectToUp h.resolution x y dimX dimY) src h h' ∧
      (1 ≤ dimX → 1 ≤ dimY → FloatArith.fequal resolution h.resolution = true)) ∨
    ∃ e, (setMapData alloc x y resolution dimX dimY src).run h = .error e h ∧
      e.isFault = false := by
  set rect := cellIdxRectToUp h.resolution x y dimX dimY with hrect
  by_cases hdim : dimX < 1 ∨ dimY < 1
  · have hempty : sfIsCellIdxRectEmpty rect := hdim.imp Int.lt_add_one_iff.mp Int.lt_add_one_iff.mp
    exact Or.inl ⟨h, by simp [setMapData, hdim], WrittenTo.of_empty hI hempty src,
      fun h₁ h₂ => by omega⟩
  have hne : ¬sfIsCellIdxRectEmpty rect :=
    fun h => hdim (h.imp Int.lt_add_one_iff.mpr Int.lt_add_one_iff.mpr)
  simp only [setMapData, if_neg hdim, EStateM.run_bind, EStateM.run_get]
  rcases checkResolutionEquality_spec resolution h.resolution with ⟨heq, hfequal⟩ | ⟨what, heq⟩
  · obtain ⟨h₁, hrun, hgrown, hwithin⟩ | hrun := checkToExtendMap_spec hI alloc hne
    · obtain ⟨dat, hcopy, hlen, hcells⟩ := copyBlock_spec hgrown.inv hne hwithin
        (fun x y hxy => hsrc _ (cellOffset_bounds hxy).1 (cellOffset_bounds hxy).2)
      obtain ⟨area, harea⟩ : ∃ area, sfCalcAreaByCellIdxRect h₁.resolution
          (mergedRect h₁.validCellIdxRect rect) = .ok area :=
        ⟨_, calcArea_eq hgrown.inv.resolution_valid _⟩
      refine Or.inl ⟨_, ?_, writtenTo_of hgrown hne hwithin hlen hcells area,
        fun _ _ => hfequal⟩
      simp [heq, hrun, hcopy, merge_eq, harea, ← hrect]
    · exact Or.inr ⟨.badAlloc, by simp [heq, hrun, ← hrect], rfl⟩
  · exact Or.inr ⟨.runtimeError what, by simp [heq], rfl⟩

/-- A map is refused, or its bytes are written. -/
theorem setMapDataOfMap_cases (alloc : ℕ → Bool) (m : MapData F) (h : ServerMapHolder F) :
    (∃ what, (setMapDataOfMap alloc (some m)).run h = .error (.runtimeError what) h) ∨
    (m.mapDimension.1 * m.mapDimension.2 ≤ m.mapData.length ∧
      (setMapDataOfMap alloc (some m)).run h = (setMapData alloc m.mapPosition.1 m.mapPosition.2
        m.mapResolution.1 m.mapDimension.1 m.mapDimension.2 (ofList m.mapData)).run h) := by
  cases hxy : FloatArith.fequal m.mapResolution.1 m.mapResolution.2 with
  | false => exact Or.inl ⟨"map resolution is different on x and y.", by
      simp [setMapDataOfMap, hxy]⟩
  | true =>
      by_cases hsize : (m.mapData.length : ℤ) < m.mapDimension.1 * m.mapDimension.2
      · exact Or.inl ⟨"map data size is less than (dimensionX * dimensionY).", by
          simp [setMapDataOfMap, hxy, hsize]⟩
      · exact Or.inr ⟨not_lt.mp hsize, by simp [setMapDataOfMap, hxy, hsize]⟩

theorem setMapDataOfMap_spec {h : ServerMapHolder F} (hI : Inv h) (alloc : ℕ → Bool)
    (m : MapData F) :
    (∃ h', (setMapDataOfMap alloc (some m)).run h = .ok () h' ∧
      WrittenTo (cellIdxRectToUp h.resolution m.mapPosition.1 m.mapPosition.2
        m.mapDimension.1 m.mapDimension.2) (ofList m.mapData) h h' ∧
      m.mapDimension.1 * m.mapDimension.2 ≤ m.mapData.length ∧
      (1 ≤ m.mapDimension.1 → 1 ≤ m.mapDimension.2 →
        FloatArith.fequal m.mapResolution.1 h.resolution = true)) ∨
    ∃ e, (setMapDataOfMap alloc (some m)).run h = .error e h ∧ e.isFault = false := by
  rcases setMapDataOfMap_cases alloc m h with ⟨what, hrun⟩ | ⟨hlength, hcall⟩
  · exact Or.inr ⟨_, hrun, rfl⟩
  · have hsrc : ∀ i, 0 ≤ i → i < m.mapDimension.1 * m.mapDimension.2 →
        (ofList m.mapData i).isSome := fun i h0 h1 => ofList_isSome h0 (by omega)
    rw [hcall]
    rcases setMapData_spec hI alloc m.mapPosition.1 m.mapPosition.2 m.mapResolution.1
        m.mapDimension.1 m.mapDimension.2 (ofList m.mapData) hsrc with
      ⟨h', hrun, hwritten, hfequal⟩ | ⟨e, hrun, he⟩
    · exact Or.inl ⟨h', hrun, hwritten, hlength, hfequal⟩
    · exact Or.inr ⟨e, hrun, he⟩

/-- The message for a non-empty rectangle, cell by cell. -/
theorem fillRosMapMsg_spec {h : ServerMapHolder F} (hI : Inv h) {req : RectangleI}
    (hreq : ¬sfIsCellIdxRectEmpty req) :
    ∃ msg, fillRosMapMsg h req = .ok (req, msg) ∧ msg.resolution = h.resolution ∧
      msg.originX = FloatArith.mul h.resolution (FloatArith.ofInt req.x) ∧
      msg.originY = FloatArith.mul h.resolution (FloatArith.ofInt req.y) ∧
      msg.width = req.width.toNat ∧ msg.height = req.height.toNat ∧
      msg.data.length = req.width.toNat * req.height.toNat ∧
      ∀ x y, sfDoesCellIdxRectContain req x y →
        ofList msg.data (cellOffset req x y) = some (toOccupancy (byteAt h x y)) := by
  obtain ⟨hw, hh⟩ := not_empty_iff.mp hreq
  have hsize : ((req.width.toNat * req.height.toNat : ℕ) : ℤ) = req.width * req.height := by
    rw [Nat.cast_mul, Int.toNat_of_nonneg hw.le, Int.toNat_of_nonneg hh.le]
  simp only [fillRosMapMsg, calcArea_eq hI.resolution_valid, except_ok_bind, if_neg hreq]
  set part := sfIntersectionOfCellIdxRect h.validCellIdxRect req with hpart
  by_cases hne : sfIsCellIdxRectEmpty part
  · refine ⟨_, by rw [if_pos hne]; rfl, rfl, rfl, rfl, rfl, rfl, by simp, ?_⟩
    intro x y hxy
    have hval : ¬sfDoesCellIdxRectContain h.validCellIdxRect x y := fun hv =>
      not_contain_of_empty hne x y (contain_intersection_iff.mpr ⟨hv, hxy⟩)
    obtain ⟨h0, h1⟩ := cellOffset_bounds hxy
    rw [ofList_replicate h0 (by rw [hsize]; exact h1), hI.outside_zero x y hval]
    rfl
  · have hvalid : Within part h.availCellIdxRect :=
      (intersection_within_left hne).trans (hI.valid_within.resolve_left
        (not_empty_of_within hne (intersection_within_left hne)))
    obtain ⟨dat, hcopy, hlen, hread⟩ := copyRows_cells toOccupancy (ofList h.mapDat)
      h.availCellIdxRect req part (List.replicate (req.width.toNat * req.height.toNat) (-1 : Int8))
      hne (intersection_within_right hne) (by rw [List.length_replicate, hsize])
      (fun x y hxy => ofList_isSome_of_contain hI.mapDat_length.ge (hvalid.contain hxy))
    have hfill : fillCells h req part
        (List.replicate (req.width.toNat * req.height.toNat) (-1)) = .ok dat := by
      simp only [cellOffset] at hcopy
      simp only [fillCells, hcopy, inBuffer]
    refine ⟨_, by rw [if_neg hne, hfill]; rfl, rfl, rfl, rfl, rfl, rfl,
      by rw [hlen, List.length_replicate], ?_⟩
    intro x y hxy
    rw [hread x y hxy]
    split_ifs with hin
    · obtain ⟨b, hb⟩ := Option.isSome_iff_exists.mp
        (ofList_isSome_of_contain hI.mapDat_length.ge (hvalid.contain hin))
      rw [byteAt, cellOf_of_contain (hvalid.contain hin), hb]
      rfl
    · have hval : ¬sfDoesCellIdxRectContain h.validCellIdxRect x y := fun hv =>
        hin (contain_intersection_iff.mpr ⟨hv, hxy⟩)
      obtain ⟨h0, h1⟩ := cellOffset_bounds hxy
      rw [ofList_replicate h0 (by rw [hsize]; exact h1), hI.outside_zero x y hval]
      rfl

theorem fillRosMapMsg_isOk {h : ServerMapHolder F} (hI : Inv h) (req : RectangleI) :
    ∃ msg, fillRosMapMsg h req = .ok (req, msg) := by
  by_cases hreq : sfIsCellIdxRectEmpty req
  · exact ⟨_, by
      simp only [fillRosMapMsg, calcArea_eq hI.resolution_valid, except_ok_bind, if_pos hreq]
      rfl⟩
  · obtain ⟨msg, hmsg, -⟩ := fillRosMapMsg_spec hI hreq
    exact ⟨msg, hmsg⟩

end Ros2WsDemo.ServerMapHolder

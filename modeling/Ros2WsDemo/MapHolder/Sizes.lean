import Ros2WsDemo.MapHolder.Atomicity
import Ros2WsDemo.MapHolder.MachineAgrees
import Ros2WsDemo.MapHolder.SourceReads

/-!
# Buffer sizes on the machine

The sizes of the two buffers are products of 32-bit numbers.  A holder whose calls all ask
for a number of cells that fits keeps the invariant of the mathematical model; the next
size is right exactly if its product fits as well.
-/

namespace Ros2WsDemo

open Agreement Atomicity MachineInt StridedCopy ServerMapHolder
open ExceptState (Ensures ensures_ok ensures_then)

variable {F : Type} [FloatArith F]

namespace ServerMapHolder

variable {h h' : ServerMapHolder F} {alloc : ℕ → Bool} {r : RectangleI}

/-! ## Growing -/

/-- What `reserveByCellIdxRect` has done when it returns. -/
theorem reserveByCellIdxRect32_ok (hI : Inv32 h) (hx : Fits r.x) (hy : Fits r.y)
    (hrun : (reserveByCellIdxRect32 alloc r).run h = .ok () h') :
    h' = h ∧ (sfIsCellIdxRectEmpty r ∨ sfDoesCellIdxRectContainRect h.availCellIdxRect r) ∨
      ¬sfDoesCellIdxRectContainRect h.availCellIdxRect r ∧ ¬sfIsCellIdxRectEmpty r ∧
        h'.availCellIdxRect = newRoom h r ∧
        (Fits h'.availCellIdxRect.x ∧ Fits h'.availCellIdxRect.y) ∧ 0 ≤ wrap (newCells h r) ∧
        alloc (wrap (newCells h r)).toNat = true ∧
        h'.mapDat.length = (wrap (newCells h r)).toNat := by
  unfold reserveByCellIdxRect32 at hrun
  by_cases hr : sfIsCellIdxRectEmpty r
  · rw [if_pos hr] at hrun
    cases hrun
    exact Or.inl ⟨rfl, Or.inl hr⟩
  rw [if_neg hr] at hrun
  rw [run_get_bind] at hrun
  obtain ⟨contained, hcontained, hrun⟩ := run_ofExcept_bind_ok hrun
  cases (agrees_containRect32 _ _).1 contained hcontained
  split_ifs at hrun with hc
  · cases hrun
    exact Or.inl ⟨rfl, Or.inr (of_decide_eq_true hc)⟩
  · obtain ⟨⟨avail, dat⟩, hgrown, hrun⟩ := run_ofExcept_bind_ok hrun
    obtain ⟨rfl, hfits, hnonneg, halloc, hlen⟩ := ensures_growTo32 hI hr hx hy _ hgrown
    simp only [run_modify_bind] at hrun
    obtain ⟨area, -, hrun⟩ := run_ofExcept_bind_ok hrun
    cases hrun
    exact Or.inr ⟨fun h => hc (decide_eq_true h), hr, rfl, hfits, hnonneg, halloc, hlen⟩

theorem reserveByCellIdxRect32_grown (hI : Inv32 h) (hx : Fits r.x) (hy : Fits r.y)
    (hfits : ReserveFits alloc h r) (hrun : (reserveByCellIdxRect32 alloc r).run h = .ok () h') :
    Inv32 h' ∧ GrownTo h h' ∧ (¬sfIsCellIdxRectEmpty r → Within r h'.availCellIdxRect) := by
  have hmath := (agrees_reserveByCellIdxRect32 hI hx hy hfits).1 () h' hrun
  obtain ⟨hgrown, hwithin⟩ : GrownTo h h' ∧ (¬sfIsCellIdxRectEmpty r →
      Within r h'.availCellIdxRect) := by
    rcases reserveByCellIdxRect_spec hI.inv alloc r with ⟨h₁, hok, hspec⟩ | herr
    · cases hmath.symm.trans hok
      exact hspec
    · cases hmath.symm.trans herr
  refine ⟨?_, hgrown, hwithin⟩
  rcases reserveByCellIdxRect32_ok hI hx hy hrun with
    ⟨rfl, -⟩ | ⟨hc, hr, havail, hafits, hnonneg, halloc, -⟩
  · exact hI
  · refine ⟨hgrown.inv, hafits, ?_⟩
    rw [havail]
    rcases (hfits.resolve_left hr).resolve_left hc with hlt | hneg | hrefused
    · exact hlt
    · omega
    · rw [halloc] at hrefused
      cases hrefused

theorem fits_of_int32If {p : Prop} [Decidable p] {a b m : ℤ} (hb : Fits b)
    (h : int32If p a b = .ok m) : Fits m := by
  unfold int32If at h
  split_ifs at h
  · obtain ⟨rfl, hfits⟩ := fits_of_int32 h
    exact hfits
  · cases h
    exact hb

omit [FloatArith F] in
theorem agrees_extendedCellIdxRect32 (h : ServerMapHolder F) (r : RectangleI) : Agrees Halt.access
    (extendedCellIdxRect32 h r) (.ok (extendedCellIdxRect h r)) := by
  unfold extendedCellIdxRect32
  refine (agrees_int32If _ _ _).bind_ok fun _ => (agrees_int32If _ _ _).bind_ok fun _ => ?_
  refine (agrees_int32 _).bind_ok fun _ => (agrees_int32 _).bind_ok fun _ => ?_
  refine (agrees_int32If _ _ _).bind_ok fun _ => ?_
  refine (agrees_int32 _).bind_ok fun _ => (agrees_int32 _).bind_ok fun _ => ?_
  refine (agrees_int32If _ _ _).bind_ok fun _ => ?_
  refine (agrees_boostAssert32 _ _).bind_ok fun _ => (agrees_boostAssert32 _ _).bind_ok fun _ => ?_
  refine (agrees_int32 _).bind_ok fun _ => (agrees_int32 _).bind_ok fun _ => ?_
  exact agrees_ok _

theorem ensures_extendedCellIdxRect32 (hI : Inv32 h) (r : RectangleI) :
    Ensures (extendedCellIdxRect32 h r) fun t => Fits t.x ∧ Fits t.y := by
  unfold extendedCellIdxRect32
  refine Ensures.bind (fun _ => fits_of_int32If hI.avail_fits.1) fun tXMin hx => ?_
  refine Ensures.bind (fun _ => fits_of_int32If hI.avail_fits.2) fun tYMin hy => ?_
  refine ensures_then fun _ => ensures_then fun _ => ensures_then fun _ => ensures_then fun _ => ?_
  refine ensures_then fun _ => ensures_then fun _ => ensures_then fun _ => ensures_then fun _ => ?_
  exact ensures_then fun _ => ensures_then fun _ => ensures_ok ⟨hx, hy⟩

theorem checkToExtendMap32_grown (hI : Inv32 h) (hr : ¬sfIsCellIdxRectEmpty r)
    (hfits : ReserveFits alloc h (extendedCellIdxRect h r))
    (hrun : (checkToExtendMap32 alloc r).run h = .ok () h') :
    Inv32 h' ∧ GrownTo h h' ∧ Within r h'.availCellIdxRect := by
  unfold checkToExtendMap32 at hrun
  rw [run_get_bind] at hrun
  obtain ⟨_, -, hrun⟩ := run_ofExcept_bind_ok hrun
  obtain ⟨_, -, hrun⟩ := run_ofExcept_bind_ok hrun
  obtain ⟨_, -, hrun⟩ := run_ofExcept_bind_ok hrun
  rw [if_neg hr] at hrun
  obtain ⟨contained, hcontained, hrun⟩ := run_ofExcept_bind_ok hrun
  cases (agrees_containRect32 _ _).1 contained hcontained
  split_ifs at hrun with hc
  · cases hrun
    exact ⟨hI, GrownTo.refl hI.inv, ((containRect_iff hr).mp (of_decide_eq_true hc)).2⟩
  · obtain ⟨t, ht, hrun⟩ := run_ofExcept_bind_ok hrun
    obtain ⟨hx, hy⟩ := ensures_extendedCellIdxRect32 hI r t ht
    cases (agrees_extendedCellIdxRect32 h r).1 t ht
    have hext := within_extendedCellIdxRect hI.inv (r := r)
    obtain ⟨hI', hgrown, hwithin⟩ := reserveByCellIdxRect32_grown hI hx hy hfits hrun
    exact ⟨hI', hgrown, hext.trans (hwithin (not_empty_of_within hr hext))⟩

/-! ## Writing -/

theorem agrees_destCellOffset32 (hI : Inv32 h) (hr : ¬sfIsCellIdxRectEmpty r)
    (hwithin : Within r h.availCellIdxRect) : Agrees Halt.access (destCellOffset32 h r)
      (.ok (cellOffset h.availCellIdxRect r.x r.y)) := by
  obtain ⟨hw, hh⟩ := not_empty_iff.mp hr
  obtain ⟨hx0, hx1, hy0, hy1⟩ := hwithin
  have hrow : mul32 (r.y - h.availCellIdxRect.y) h.availCellIdxRect.width =
      (r.y - h.availCellIdxRect.y) * h.availCellIdxRect.width :=
    mul32_of_row (by omega) (by omega : _ < h.availCellIdxRect.height) (by omega) hI.cells_lt
  unfold destCellOffset32
  refine (agrees_int32 _).bind_ok fun _ => (agrees_boostAssert32 _ _).bind_ok fun _ => ?_
  refine (agrees_int32 _).bind_ok fun _ => (agrees_boostAssert32 _ _).bind_ok fun _ => ?_
  refine (agrees_int32 _).bind_ok fun _ => (agrees_boostAssert32 _ _).bind_ok fun _ => ?_
  refine (agrees_int32 _).bind_ok fun _ => (agrees_boostAssert32 _ _).bind_ok fun _ => ?_
  rw [hrow]
  exact agrees_int32 _

/-- The step up to the row loop has only made room. -/
theorem beginSetMapData32_grown (hI : Inv32 h) {x y resolution : F} {dimX dimY : ℤ}
    {srcDat : Option (ℤ → Option UInt8)} {block : Block}
    (hfits : ReserveFits alloc h
      (extendedCellIdxRect h (cellIdxRectToUp h.resolution x y dimX dimY)))
    (hrun : (beginSetMapData32 alloc x y resolution dimX dimY srcDat).run h =
      .ok (some block) h') :
    Inv32 h' ∧ GrownTo h h' ∧ ¬sfIsCellIdxRectEmpty block.cellIdxRectToUp ∧
      Within block.cellIdxRectToUp h'.availCellIdxRect ∧ block.destCellOffset =
        cellOffset h'.availCellIdxRect block.cellIdxRectToUp.x block.cellIdxRectToUp.y := by
  unfold beginSetMapData32 at hrun
  by_cases hdim : dimX < 1 ∨ dimY < 1
  · rw [if_pos hdim] at hrun
    cases hrun
  rw [if_neg hdim] at hrun
  cases srcDat with
  | none => cases hrun
  | some src =>
      simp only [run_get_bind] at hrun
      obtain ⟨_, -, hrun⟩ := run_ofExcept_bind_ok hrun
      obtain ⟨cellX, hcellX, hrun⟩ := run_ofExcept_bind_ok hrun
      obtain ⟨cellY, hcellY, hrun⟩ := run_ofExcept_bind_ok hrun
      obtain ⟨rfl, -⟩ := fits_of_int32 hcellX
      obtain ⟨rfl, -⟩ := fits_of_int32 hcellY
      obtain ⟨_, h₁, hextend, hrun⟩ := run_bind_ok hrun
      have hne : ¬sfIsCellIdxRectEmpty (cellIdxRectToUp h.resolution x y dimX dimY) :=
        fun hempty => hdim (hempty.imp Int.lt_add_one_iff.mpr Int.lt_add_one_iff.mpr)
      obtain ⟨hI₁, hgrown, hwithin⟩ := checkToExtendMap32_grown hI hne hfits hextend
      rw [run_get_bind] at hrun
      obtain ⟨offset, hoffset, hrun⟩ := run_ofExcept_bind_ok hrun
      cases (agrees_destCellOffset32 hI₁ hne hwithin).1 offset hoffset
      cases hrun
      exact ⟨hI₁, hgrown, hne, hwithin, rfl⟩

/-- The row loop of a block for which there is room has written the block. -/
theorem copyBlock32_written {h₁ : ServerMapHolder F} (hI : Inv32 h₁) (hgrown : GrownTo h h₁)
    {block : Block} (hne : ¬sfIsCellIdxRectEmpty block.cellIdxRectToUp)
    (hwithin : Within block.cellIdxRectToUp h₁.availCellIdxRect)
    (hoffset : block.destCellOffset =
      cellOffset h₁.availCellIdxRect block.cellIdxRectToUp.x block.cellIdxRectToUp.y)
    (hrun : (copyBlock32 (some block)).run h₁ = .ok () h') :
    Inv32 h' ∧ WrittenTo block.cellIdxRectToUp block.srcDat h h' := by
  obtain ⟨rect, offset, src⟩ := block
  simp only at hne hwithin hoffset ⊢
  subst hoffset
  unfold copyBlock32 at hrun
  rw [run_get_bind] at hrun
  obtain ⟨dat, hdat, hrun⟩ := run_ofExcept_bind_ok hrun
  rw [run_modify_bind] at hrun
  obtain ⟨valid, hvalid, hrun⟩ := run_ofExcept_bind_ok hrun
  cases (agrees_merge32 _ _).1 valid hvalid
  rw [run_modify_bind] at hrun
  obtain ⟨area, -, hrun⟩ := run_ofExcept_bind_ok hrun
  have hcopy := some_of_inBuffer32 hdat
  -- the loop got through, so every byte it reads is there
  have hsrc : ∀ x y, sfDoesCellIdxRectContain rect x y → (src (cellOffset rect x y)).isSome := by
    intro x y hxy
    obtain ⟨hw, hh⟩ := not_empty_iff.mp hne
    refine (copyRows_reads hcopy).1 _ ?_
    have hpacked := mem_reads_packed (n := rect.width.toNat) (m := rect.height.toNat)
      (k := cellOffset rect x y)
    rw [Int.toNat_of_nonneg hw.le, Int.toNat_of_nonneg hh.le] at hpacked
    exact hpacked.mpr (cellOffset_bounds hxy)
  obtain ⟨dat', hblock, hlen, hcells⟩ := copyBlock_spec hI.inv hne hwithin hsrc
  rw [copyBlock_eq hne hwithin, hcopy] at hblock
  cases hblock
  cases hrun
  have hwritten := writtenTo_of hgrown hne hwithin hlen hcells area
  exact ⟨⟨hwritten.inv, hI.avail_fits, hI.cells_lt⟩, hwritten⟩

theorem copyBlock32_inv (hI : Inv32 h) {x y resolution : F} {dimX dimY : ℤ}
    {srcDat : Option (ℤ → Option UInt8)} {block : Option Block} {h₁ : ServerMapHolder F}
    (hfits : (dimX < 1 ∨ dimY < 1) ∨ ReserveFits alloc h
      (extendedCellIdxRect h (cellIdxRectToUp h.resolution x y dimX dimY)))
    (hbegin : (beginSetMapData32 alloc x y resolution dimX dimY srcDat).run h = .ok block h₁)
    (hrun : (copyBlock32 block).run h₁ = .ok () h') : Inv32 h' := by
  rcases beginSetMapData32_block hbegin with ⟨rfl, hdim⟩ | ⟨b, rfl, hx, hy, -⟩
  · unfold beginSetMapData32 at hbegin
    rw [if_pos hdim] at hbegin
    cases hbegin
    cases hrun
    exact hI
  · obtain ⟨hI₁, hgrown, hne, hwithin, hoffset⟩ :=
      beginSetMapData32_grown hI (hfits.resolve_left (by omega)) hbegin
    exact (copyBlock32_written hI₁ hgrown hne hwithin hoffset hrun).1

/-! ## Runs -/

/-- The room that `setMapData` asks for fits, if it asks for any. -/
def WriteFits (alloc : ℕ → Bool) (h : ServerMapHolder F) (x y : F) (dimX dimY : ℤ) : Prop :=
  (dimX < 1 ∨ dimY < 1) ∨
    ReserveFits alloc h (extendedCellIdxRect h (cellIdxRectToUp h.resolution x y dimX dimY))

theorem ensures_minBounding32 (resolution : F) (a : RectangleF F) :
    Ensures (sfCalcMinBoundingCellIdxRect32 resolution a) fun r => Fits r.x ∧ Fits r.y := by
  have hmin : ∀ pos, Ensures (minBoundingIdxMin32 resolution pos) Fits := by
    intro pos
    unfold minBoundingIdxMin32
    refine Ensures.bind (fun _ hm => (fits_of_int32 hm).1 ▸ (fits_of_int32 hm).2) fun idx hidx => ?_
    split_ifs
    · exact fun _ hm => (fits_of_int32 hm).1 ▸ (fits_of_int32 hm).2
    · exact ensures_ok hidx
  unfold sfCalcMinBoundingCellIdxRect32
  refine ensures_then fun _ => ?_
  refine Ensures.bind (hmin _) fun x hx => Ensures.bind (hmin _) fun y hy => ?_
  refine ensures_then fun _ => ensures_then fun _ => ensures_then fun _ => ensures_then fun _ => ?_
  refine ensures_then fun _ => ensures_then fun _ => ensures_then fun _ => ensures_then fun _ => ?_
  exact ensures_ok ⟨hx, hy⟩

end ServerMapHolder

/-- The call asks for no number of cells that wraps into the size of a buffer.  Its
indices are values of `int`. -/
def HolderCall.SizesFit (alloc : ℕ → Bool) : HolderCall F → ServerMapHolder F → Prop
  | .reserveByCellIdxRect r, h => (Fits r.x ∧ Fits r.y) ∧ ReserveFits alloc h r
  | .reserveByArea a, h => ∀ r, sfCalcMinBoundingCellIdxRect32 h.resolution a = .ok r →
      ReserveFits alloc h r
  | .setMapData x y _ dimX dimY _, h => WriteFits alloc h x y dimX dimY
  | .setMapDataOfMap (some m), h => WriteFits alloc h m.mapPosition.1 m.mapPosition.2
      m.mapDimension.1 m.mapDimension.2
  | _, _ => True

namespace ServerMapHolder

variable {h h' : ServerMapHolder F} {alloc : ℕ → Bool}

theorem inv32_of_cleared (hI : Inv h) (havail : h.availCellIdxRect = {}) : Inv32 h where
  inv := hI
  avail_fits := by
    rw [havail]
    decide
  cells_lt := by
    rw [havail]
    decide

theorem inv32_new : Inv32 (new : ServerMapHolder F) := inv32_of_cleared inv_new rfl

omit [FloatArith F] in
theorem liftHolder_ok {α : Type} {m : HolderM F α} {a : α}
    (hrun : (liftHolder m).run h = .ok a h') : m.run h = .ok a h' := by
  rw [run_liftHolder] at hrun
  cases hm : m.run h with
  | ok b h₁ =>
      rw [hm] at hrun
      cases hrun
      rfl
  | error e h₁ =>
      rw [hm] at hrun
      cases hrun

/-- Every call that fits keeps the invariant. -/
theorem exec32_inv (hI : Inv32 h) {call : HolderCall F} (hfits : call.SizesFit alloc h)
    (hrun : (call.exec32 alloc).run h = .ok () h') : Inv32 h' := by
  cases call with
  | clear =>
      obtain ⟨h₁, hclear, -, hexec⟩ := executed_clear hI.inv
      have hmath : (clear : HolderM F Unit).run h = .ok () h' := liftHolder_ok hrun
      cases hclear
      cases hmath
      exact inv32_of_cleared hexec.inv rfl
  | reinit resolution =>
      have hmath : (reinit resolution).run h = .ok () h' := liftHolder_ok hrun
      rcases executed_reinit hI.inv resolution with ⟨h₁, hok, -, hexec⟩ | ⟨what, herr⟩
      · cases hmath.symm.trans hok
        refine inv32_of_cleared hexec.inv ?_
        obtain ⟨_, -, hmath⟩ := run_ofExcept_bind_ok hmath
        cases hmath
        rfl
      · cases hmath.symm.trans herr
  | setMoreCellCountToExtend n =>
      obtain ⟨h₁, hset, hexec⟩ := executed_setMoreCellCountToExtend hI.inv n
      have hmath : (setMoreCellCountToExtend n).run h = .ok () h' := liftHolder_ok hrun
      cases hset
      cases hmath
      exact ⟨hexec.inv, hI.avail_fits, hI.cells_lt⟩
  | reserveByCellIdxRect r =>
      exact (reserveByCellIdxRect32_grown hI hfits.1.1 hfits.1.2 hfits.2 hrun).1
  | reserveByArea a =>
      change (reserveByArea32 alloc a).run h = _ at hrun
      unfold reserveByArea32 at hrun
      split_ifs at hrun
      · cases hrun
        exact hI
      · rw [run_get_bind] at hrun
        obtain ⟨r, hr, hrun⟩ := run_ofExcept_bind_ok hrun
        obtain ⟨hx, hy⟩ := ensures_minBounding32 _ a r hr
        exact (reserveByCellIdxRect32_grown hI hx hy (hfits r hr) hrun).1
  | setMapData x y resolution dimX dimY srcDat =>
      obtain ⟨block, h₁, hbegin, hcopy⟩ := run_bind_ok hrun
      exact copyBlock32_inv hI hfits hbegin hcopy
  | setMapDataOfMap hMap =>
      cases hMap with
      | none =>
          cases hrun
          exact hI
      | some m =>
          obtain ⟨block, h₁, hbegin, hcopy⟩ := run_bind_ok hrun
          exact copyBlock32_inv hI hfits (beginSetMapDataOfMap32_ok hbegin).2 hcopy

theorem reachable32_inv (hreach : Reachable32 (fun alloc call h => call.SizesFit alloc h) h) :
    Inv32 h := by
  induction hreach with
  | new => exact inv32_new
  | returned _ hfits hrun ih => exact exec32_inv ih hfits hrun
  | threw _ _ hrun he ih =>
      rw [atomic_exec32 _ _ _ _ _ hrun he]
      exact ih

/-! ## Sizes -/

theorem wrap_toNat_eq_iff {n : ℤ} (h0 : 0 ≤ n) (hwrap : 0 ≤ wrap n) :
    ((wrap n).toNat : ℤ) = n ↔ n < 2 ^ 31 := by
  rw [Int.toNat_of_nonneg hwrap]
  constructor
  · intro heq
    have hlt := (fits_wrap n).2
    rwa [heq] at hlt
  · exact wrap_of_lt h0

omit [FloatArith F] in
theorem newCells_nonneg {r : RectangleI} (hr : ¬sfIsCellIdxRectEmpty r) : 0 ≤ newCells h r := by
  have hmerged : ¬sfIsCellIdxRectEmpty (mergedRect h.availCellIdxRect r) := merge_not_empty hr
  obtain ⟨hw, hh⟩ := not_empty_iff.mp (not_empty_of_within hmerged (within_alignedHull _))
  exact mul_nonneg hw.le hh.le

/-- A reservation that returns has a buffer of the right size exactly if it had the room
or the product of the new sides is below `2 ^ 31`. -/
theorem reserve_exact_iff (hI : Inv32 h) {r : RectangleI} (hr : ¬sfIsCellIdxRectEmpty r)
    (hx : Fits r.x) (hy : Fits r.y) (hrun : (reserveByCellIdxRect32 alloc r).run h = .ok () h') :
    (h'.mapDat.length : ℤ) = h'.availCellIdxRect.width * h'.availCellIdxRect.height ↔
      sfDoesCellIdxRectContainRect h.availCellIdxRect r ∨ newCells h r < 2 ^ 31 := by
  rcases reserveByCellIdxRect32_ok hI hx hy hrun with
    ⟨rfl, hold⟩ | ⟨hc, -, havail, -, hnonneg, -, hlen⟩
  · exact iff_of_true hI.inv.mapDat_length (Or.inl (hold.resolve_left hr))
  · have hcells : h'.availCellIdxRect.width * h'.availCellIdxRect.height = newCells h r := by
      rw [havail, newCells]
    rw [hcells, hlen, wrap_toNat_eq_iff (newCells_nonneg hr) hnonneg]
    exact ⟨Or.inr, fun hlt => hlt.resolve_left hc⟩

theorem reserve_inBounds (hI : Inv32 h) {r : RectangleI} (hx : Fits r.x) (hy : Fits r.y)
    (hfits : ReserveFits alloc h r) :
    (reserveByCellIdxRect32 alloc r).run h ≠ .error (.exn .outOfRange) h' := by
  intro hrun
  obtain ⟨h₁, hmath⟩ := (agrees_reserveByCellIdxRect32 hI hx hy hfits).2 _ _ _ hrun rfl
  rcases reserveByCellIdxRect_spec hI.inv alloc r with ⟨h₂, hok, -⟩ | herr
  · cases hmath.symm.trans hok
  · cases hmath.symm.trans herr

/-- A message that is filled has the right size exactly if the product of its sides is
below `2 ^ 32`. -/
theorem fill_exact_iff {req rect : RectangleI} {msg : GetMapResponse F}
    (hreq : ¬sfIsCellIdxRectEmpty req) (hw : req.width < 2 ^ 31) (hh : req.height < 2 ^ 31)
    (hrun : fillRosMapMsg32 alloc h req = .ok (rect, msg)) :
    (msg.data.length : ℤ) = req.width * req.height ↔ req.width * req.height < 2 ^ 32 := by
  obtain ⟨hw0, hh0⟩ := not_empty_iff.mp hreq
  have hpos : 0 < req.width * req.height := mul_pos hw0 hh0
  rw [ensures_fillRosMapMsg32 h hreq hw hh _ hrun]
  have hmod : 0 ≤ wrapU (req.width * req.height) := Int.emod_nonneg _ (by norm_num)
  rw [Int.toNat_of_nonneg hmod]
  constructor
  · intro heq
    have hlt : wrapU (req.width * req.height) < 2 ^ 32 := Int.emod_lt_of_pos _ (by norm_num)
    rwa [heq] at hlt
  · exact wrapU_of_lt hpos.le

theorem fill_inBounds (hI : Inv32 h) {req : RectangleI} (hreq : ¬sfIsCellIdxRectEmpty req)
    (hw : req.width < 2 ^ 31) (hh : req.height < 2 ^ 31) (hfits : FillFits alloc h req) :
    fillRosMapMsg32 alloc h req ≠ .error (.exn .outOfRange) := by
  intro hrun
  have hmath := (agrees_fillRosMapMsg32 hI hreq hw hh hfits).2 _ _ hrun rfl
  obtain ⟨msg, hok⟩ := fillRosMapMsg_isOk hI.inv req
  cases hmath.symm.trans hok

end ServerMapHolder

end Ros2WsDemo

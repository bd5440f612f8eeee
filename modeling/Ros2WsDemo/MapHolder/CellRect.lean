import Ros2WsDemo.Rpos.Basic

/-!
# Cell rectangles

The static functions of `ServerMapHolder` on cell index rectangles, and what
they do to the cells of a rectangle.  A rectangle is empty as soon as one of its
sides is; the cells of a non-empty one are half-open on the right and below.
-/

namespace Ros2WsDemo.ServerMapHolder

/-! ## The functions of the source -/

def sfIsCellIdxRectEmpty (cellIdxRect : RectangleI) : Prop :=
  cellIdxRect.width ≤ 0 ∨ cellIdxRect.height ≤ 0

instance (r : RectangleI) : Decidable (sfIsCellIdxRectEmpty r) :=
  inferInstanceAs (Decidable (_ ∨ _))

def sfDoesCellIdxRectContain (cellIdxRect : RectangleI) (cellIdxX cellIdxY : ℤ) : Prop :=
  0 < cellIdxRect.width ∧ 0 < cellIdxRect.height ∧
    cellIdxRect.x ≤ cellIdxX ∧ cellIdxX < cellIdxRect.x + cellIdxRect.width ∧
      cellIdxRect.y ≤ cellIdxY ∧ cellIdxY < cellIdxRect.y + cellIdxRect.height

instance (r : RectangleI) (x y : ℤ) : Decidable (sfDoesCellIdxRectContain r x y) :=
  inferInstanceAs (Decidable (_ ∧ _))

/-- The overload of `sfDoesCellIdxRectContain` for a rectangle. -/
def sfDoesCellIdxRectContainRect (cellIdxRect objRect : RectangleI) : Prop :=
  ¬sfIsCellIdxRectEmpty cellIdxRect ∧
    let xEnd := cellIdxRect.x + cellIdxRect.width
    let yEnd := cellIdxRect.y + cellIdxRect.height
    let objXEnd := if 0 < objRect.width then objRect.x + objRect.width else objRect.x
    let objYEnd := if 0 < objRect.height then objRect.y + objRect.height else objRect.y
    cellIdxRect.x ≤ objRect.x ∧ objRect.x < xEnd ∧ objXEnd ≤ xEnd ∧
      cellIdxRect.y ≤ objRect.y ∧ objRect.y < yEnd ∧ objYEnd ≤ yEnd

instance (r s : RectangleI) : Decidable (sfDoesCellIdxRectContainRect r s) :=
  inferInstanceAs (Decidable (_ ∧ _))

def sfMergeCellIdxRect (idxRectA idxRectB : RectangleI) : Except Exn RectangleI :=
  if sfIsCellIdxRectEmpty idxRectB then .ok idxRectA
  else if sfIsCellIdxRectEmpty idxRectA then .ok idxRectB
  else do
    let xMin := min idxRectA.x idxRectB.x
    let yMin := min idxRectA.y idxRectB.y
    let xEnd := max (idxRectA.x + idxRectA.width) (idxRectB.x + idxRectB.width)
    let yEnd := max (idxRectA.y + idxRectA.height) (idxRectB.y + idxRectB.height)
    boostAssert (xMin < xEnd) "xMin < xEnd"
    boostAssert (yMin < yEnd) "yMin < yEnd"
    return ⟨xMin, yMin, xEnd - xMin, yEnd - yMin⟩

def sfIntersectionOfCellIdxRect (idxRectA idxRectB : RectangleI) : RectangleI :=
  if sfIsCellIdxRectEmpty idxRectA ∨ sfIsCellIdxRectEmpty idxRectB then {}
  else
    let xMin := max idxRectA.x idxRectB.x
    let yMin := max idxRectA.y idxRectB.y
    let xEnd := min (idxRectA.x + idxRectA.width) (idxRectB.x + idxRectB.width)
    let yEnd := min (idxRectA.y + idxRectA.height) (idxRectB.y + idxRectB.height)
    ⟨xMin, yMin, if xMin < xEnd then xEnd - xMin else 0, if yMin < yEnd then yEnd - yMin else 0⟩

section Area

variable {F : Type} [FloatArith F]

open FloatArith (ofInt)

def checkResolutionAssert (resolution : F) : Except Exn Unit :=
  boostAssert (FloatArith.lt FloatArith.epsilon resolution) "FLT_EPSILON < resolution"

def sfCalcAreaByCellIdxRect (resolution : F) (cellIdxRect : RectangleI) :
    Except Exn (RectangleF F) := do
  checkResolutionAssert resolution
  return {
    x := FloatArith.mul resolution (ofInt cellIdxRect.x)
    y := FloatArith.mul resolution (ofInt cellIdxRect.y)
    width := FloatArith.mul resolution (ofInt cellIdxRect.width)
    height := FloatArith.mul resolution (ofInt cellIdxRect.height) }

/-- The lower index of one axis in `sfCalcMinBoundingCellIdxRect`. -/
def minBoundingIdxMin (resolution pos : F) : ℤ :=
  let idxMin := FloatArith.floor (FloatArith.div pos resolution)
  if FloatArith.lt pos (FloatArith.mul resolution (ofInt idxMin)) then idxMin - 1 else idxMin

def minBoundingIdxMax (resolution pos size : F) : ℤ :=
  let srcMax := if FloatArith.lt (ofInt 0) size then FloatArith.add pos size else pos
  let idxMax := FloatArith.floor (FloatArith.div srcMax resolution)
  if FloatArith.lt (FloatArith.mul resolution (ofInt (idxMax + 1))) srcMax then idxMax + 1
  else idxMax

def sfCalcMinBoundingCellIdxRect (resolution : F) (reqArea : RectangleF F) :
    Except Exn RectangleI := do
  checkResolutionAssert resolution
  let idxXMin := minBoundingIdxMin resolution reqArea.x
  let idxYMin := minBoundingIdxMin resolution reqArea.y
  let idxXMax := minBoundingIdxMax resolution reqArea.x reqArea.width
  let idxYMax := minBoundingIdxMax resolution reqArea.y reqArea.height
  boostAssert (idxXMin ≤ idxXMax) "idxXMin <= idxXMax"
  boostAssert (idxYMin ≤ idxYMax) "idxYMin <= idxYMax"
  return ⟨idxXMin, idxYMin, idxXMax - idxXMin + 1, idxYMax - idxYMin + 1⟩

def sfCalcRoundedCellIdxRect (resolution : F) (reqArea : RectangleF F) :
    Except Exn RectangleI := do
  checkResolutionAssert resolution
  return {
    x := FloatArith.round (FloatArith.div reqArea.x resolution)
    y := FloatArith.round (FloatArith.div reqArea.y resolution)
    width := FloatArith.round (FloatArith.div reqArea.width resolution)
    height := FloatArith.round (FloatArith.div reqArea.height resolution) }

end Area

/-- `C_MAP_DATA_SIZE_ALIGNMENT` -/
def mapDataSizeAlignment : ℕ := 16

/-- The source computes on the absolute value of a negative index, as an unsigned number. -/
def sfGetAlignedFloorCellIdx (inCellIdx : ℤ) : ℤ :=
  if inCellIdx < 0 then
    -((((-inCellIdx).toNat - 1) / mapDataSizeAlignment + 1) * mapDataSizeAlignment : ℕ)
  else
    (inCellIdx.toNat / mapDataSizeAlignment * mapDataSizeAlignment : ℕ)

def sfGetAlignedCeilSize (inSize : ℤ) : Except Exn ℤ :=
  if inSize < 0 then .error (.runtimeError "invalid input size.")
  else
    .ok ((inSize.toNat + (mapDataSizeAlignment - 1)) / mapDataSizeAlignment *
      mapDataSizeAlignment : ℕ)

def sfCalcAdjustedCellIdxRect (idxRect : RectangleI) : Except Exn RectangleI :=
  if sfIsCellIdxRectEmpty idxRect then .ok {}
  else do
    let xMin := sfGetAlignedFloorCellIdx idxRect.x
    boostAssert (xMin ≤ idxRect.x) "xMin <= idxRect.x()"
    let yMin := sfGetAlignedFloorCellIdx idxRect.y
    boostAssert (yMin ≤ idxRect.y) "yMin <= idxRect.y()"
    let reqXEnd := idxRect.x + idxRect.width
    let reqYEnd := idxRect.y + idxRect.height
    let tWidth ← sfGetAlignedCeilSize (reqXEnd - xMin)
    boostAssert (reqXEnd ≤ xMin + tWidth) "reqXEnd <= xMin + tWidth"
    let tHeight ← sfGetAlignedCeilSize (reqYEnd - yMin)
    boostAssert (reqYEnd ≤ yMin + tHeight) "reqYEnd <= yMin + tHeight"
    return ⟨xMin, yMin, tWidth, tHeight⟩

theorem checkResolutionAssert_of {F : Type} [FloatArith F] {resolution : F}
    (h : FloatArith.lt FloatArith.epsilon resolution) :
    checkResolutionAssert resolution = .ok () := boostAssert_of h _

/-- The value of `sfCalcAreaByCellIdxRect` for a valid resolution. -/
def cellArea {F : Type} [FloatArith F] (resolution : F) (r : RectangleI) : RectangleF F where
  x := FloatArith.mul resolution (FloatArith.ofInt r.x)
  y := FloatArith.mul resolution (FloatArith.ofInt r.y)
  width := FloatArith.mul resolution (FloatArith.ofInt r.width)
  height := FloatArith.mul resolution (FloatArith.ofInt r.height)

theorem calcArea_eq {F : Type} [FloatArith F] {resolution : F}
    (h : FloatArith.lt FloatArith.epsilon resolution) (r : RectangleI) :
    sfCalcAreaByCellIdxRect resolution r = .ok (cellArea resolution r) := by
  rw [sfCalcAreaByCellIdxRect, checkResolutionAssert_of h]
  rfl

/-! ## Containment of cells -/

/-- Every edge of `r` lies within `s`.  For a non-empty `r` this is inclusion of cells. -/
def Within (r s : RectangleI) : Prop :=
  s.x ≤ r.x ∧ r.x + r.width ≤ s.x + s.width ∧ s.y ≤ r.y ∧ r.y + r.height ≤ s.y + s.height

theorem Within.refl (r : RectangleI) : Within r r :=
  ⟨le_rfl, le_rfl, le_rfl, le_rfl⟩

theorem Within.trans {r s t : RectangleI} (h : Within r s) (h' : Within s t) : Within r t := by
  unfold Within at *
  omega

theorem Within.contain {r s : RectangleI} (h : Within r s) {x y : ℤ}
    (hc : sfDoesCellIdxRectContain r x y) : sfDoesCellIdxRectContain s x y := by
  unfold Within sfDoesCellIdxRectContain at *
  omega

theorem not_empty_iff {r : RectangleI} :
    ¬sfIsCellIdxRectEmpty r ↔ 0 < r.width ∧ 0 < r.height := by
  unfold sfIsCellIdxRectEmpty
  omega

theorem not_empty_of_contain {r : RectangleI} {x y : ℤ} (h : sfDoesCellIdxRectContain r x y) :
    ¬sfIsCellIdxRectEmpty r :=
  not_empty_iff.mpr ⟨h.1, h.2.1⟩

/-- Inclusion of cells determines the edges of a non-empty rectangle. -/
theorem within_of_contain {r s : RectangleI} (hr : ¬sfIsCellIdxRectEmpty r)
    (h : ∀ x y, sfDoesCellIdxRectContain r x y → sfDoesCellIdxRectContain s x y) :
    Within r s := by
  rw [not_empty_iff] at hr
  have hlo := h r.x r.y ⟨hr.1, hr.2, le_rfl, by omega, le_rfl, by omega⟩
  have hhi := h (r.x + r.width - 1) (r.y + r.height - 1)
    ⟨hr.1, hr.2, by omega, by omega, by omega, by omega⟩
  unfold sfDoesCellIdxRectContain at hlo hhi
  unfold Within
  omega

/-- Two rectangles with the same edges are equal. -/
theorem eq_of_within {r s : RectangleI} (h : Within r s) (h' : Within s r) : r = s := by
  unfold Within at h h'
  cases r
  cases s
  simp only [RectangleI.mk.injEq] at *
  omega

theorem containRect_iff {r s : RectangleI} (hs : ¬sfIsCellIdxRectEmpty s) :
    sfDoesCellIdxRectContainRect r s ↔ ¬sfIsCellIdxRectEmpty r ∧ Within s r := by
  rw [not_empty_iff] at hs
  unfold sfDoesCellIdxRectContainRect sfIsCellIdxRectEmpty Within
  simp only [if_pos hs.1, if_pos hs.2]
  omega

theorem not_empty_of_within {r s : RectangleI} (hr : ¬sfIsCellIdxRectEmpty r)
    (h : Within r s) : ¬sfIsCellIdxRectEmpty s := by
  rw [not_empty_iff] at *
  unfold Within at h
  omega

/-! ## Merging and intersecting -/

/-- The value of `sfMergeCellIdxRect`, whose assertions always hold. -/
def mergedRect (A B : RectangleI) : RectangleI :=
  if sfIsCellIdxRectEmpty B then A
  else if sfIsCellIdxRectEmpty A then B
  else
    ⟨min A.x B.x, min A.y B.y, max (A.x + A.width) (B.x + B.width) - min A.x B.x,
      max (A.y + A.height) (B.y + B.height) - min A.y B.y⟩

theorem merge_eq (A B : RectangleI) : sfMergeCellIdxRect A B = .ok (mergedRect A B) := by
  unfold sfMergeCellIdxRect mergedRect
  split_ifs with hB hA
  · rfl
  · rfl
  · rw [not_empty_iff] at hA hB
    have hx : min A.x B.x < max (A.x + A.width) (B.x + B.width) := by omega
    have hy : min A.y B.y < max (A.y + A.height) (B.y + B.height) := by omega
    simp only [boostAssert_of hx, boostAssert_of hy, except_ok_bind]
    rfl

theorem merge_not_empty {A B : RectangleI} (hB : ¬sfIsCellIdxRectEmpty B) :
    ¬sfIsCellIdxRectEmpty (mergedRect A B) := by
  unfold mergedRect
  rw [if_neg hB]
  split_ifs with hA
  · exact hB
  · rw [not_empty_iff] at *
    simp only
    omega

theorem within_merge_left {A B : RectangleI} (hA : ¬sfIsCellIdxRectEmpty A) :
    Within A (mergedRect A B) := by
  unfold mergedRect
  split_ifs with hB
  · exact Within.refl A
  · simp only [Within]
    omega

theorem within_merge_right {A B : RectangleI} (hB : ¬sfIsCellIdxRectEmpty B) :
    Within B (mergedRect A B) := by
  unfold mergedRect
  rw [if_neg hB]
  split_ifs with hA
  · exact Within.refl B
  · simp only [Within]
    omega

/-- The merged rectangle lies in every rectangle that holds both parts. -/
theorem merge_within {A B C : RectangleI} (hA : ¬sfIsCellIdxRectEmpty A → Within A C)
    (hB : ¬sfIsCellIdxRectEmpty B → Within B C) (hne : ¬sfIsCellIdxRectEmpty (mergedRect A B)) :
    Within (mergedRect A B) C := by
  unfold mergedRect at hne ⊢
  by_cases hB0 : sfIsCellIdxRectEmpty B
  · rw [if_pos hB0] at hne ⊢
    exact hA hne
  · rw [if_neg hB0] at hne ⊢
    by_cases hA0 : sfIsCellIdxRectEmpty A
    · rw [if_pos hA0]
      exact hB hB0
    · rw [if_neg hA0]
      have h₁ := hA hA0
      have h₂ := hB hB0
      simp only [Within] at *
      omega

/-- A cell belongs to the intersection exactly when it belongs to both rectangles. -/
theorem contain_intersection_iff {A B : RectangleI} {x y : ℤ} :
    sfDoesCellIdxRectContain (sfIntersectionOfCellIdxRect A B) x y ↔
      sfDoesCellIdxRectContain A x y ∧ sfDoesCellIdxRectContain B x y := by
  unfold sfIntersectionOfCellIdxRect
  by_cases hE : sfIsCellIdxRectEmpty A ∨ sfIsCellIdxRectEmpty B
  · rw [if_pos hE]
    unfold sfDoesCellIdxRectContain sfIsCellIdxRectEmpty at *
    simp only
    omega
  · rw [if_neg hE]
    unfold sfDoesCellIdxRectContain sfIsCellIdxRectEmpty at *
    simp only
    split_ifs <;> omega

theorem intersection_within_left {A B : RectangleI}
    (hne : ¬sfIsCellIdxRectEmpty (sfIntersectionOfCellIdxRect A B)) :
    Within (sfIntersectionOfCellIdxRect A B) A :=
  within_of_contain hne fun _ _ h => (contain_intersection_iff.mp h).1

theorem intersection_within_right {A B : RectangleI}
    (hne : ¬sfIsCellIdxRectEmpty (sfIntersectionOfCellIdxRect A B)) :
    Within (sfIntersectionOfCellIdxRect A B) B :=
  within_of_contain hne fun _ _ h => (contain_intersection_iff.mp h).2

/-! ## Alignment -/

/-- All four numbers are multiples of the alignment. -/
def Aligned (r : RectangleI) : Prop :=
  16 ∣ r.x ∧ 16 ∣ r.y ∧ 16 ∣ r.width ∧ 16 ∣ r.height

theorem alignedFloor_spec (i : ℤ) :
    16 ∣ sfGetAlignedFloorCellIdx i ∧ sfGetAlignedFloorCellIdx i ≤ i ∧
      i < sfGetAlignedFloorCellIdx i + 16 := by
  unfold sfGetAlignedFloorCellIdx mapDataSizeAlignment
  split_ifs <;> refine ⟨?_, ?_, ?_⟩ <;> push_cast <;> omega

theorem alignedCeil_spec {n : ℤ} (hn : 0 ≤ n) :
    ∃ m, sfGetAlignedCeilSize n = .ok m ∧ 16 ∣ m ∧ n ≤ m ∧ m < n + 16 := by
  refine ⟨_, by rw [sfGetAlignedCeilSize, if_neg (not_lt.mpr hn)], ?_⟩
  unfold mapDataSizeAlignment
  refine ⟨?_, ?_, ?_⟩ <;> push_cast <;> omega

/-- Adjusting a non-empty rectangle succeeds; the result is aligned, holds the
rectangle and reaches less than one alignment step beyond its right and lower edge. -/
theorem adjusted_spec {r : RectangleI} (hr : ¬sfIsCellIdxRectEmpty r) :
    ∃ s, sfCalcAdjustedCellIdxRect r = .ok s ∧ Aligned s ∧ Within r s ∧
      r.x < s.x + 16 ∧ r.y < s.y + 16 ∧
      s.x + s.width < r.x + r.width + 16 ∧ s.y + s.height < r.y + r.height + 16 := by
  have hpos := not_empty_iff.mp hr
  obtain ⟨hx16, hxle, hxlt⟩ := alignedFloor_spec r.x
  obtain ⟨hy16, hyle, hylt⟩ := alignedFloor_spec r.y
  obtain ⟨w, hw, hw16, hwle, hwlt⟩ :=
    alignedCeil_spec (n := r.x + r.width - sfGetAlignedFloorCellIdx r.x) (by omega)
  obtain ⟨h, hh, hh16, hhle, hhlt⟩ :=
    alignedCeil_spec (n := r.y + r.height - sfGetAlignedFloorCellIdx r.y) (by omega)
  refine ⟨⟨sfGetAlignedFloorCellIdx r.x, sfGetAlignedFloorCellIdx r.y, w, h⟩, ?_,
    ⟨hx16, hy16, hw16, hh16⟩, ?_, hxlt, hylt, by simp only; omega, by simp only; omega⟩
  · have hW : r.x + r.width ≤ sfGetAlignedFloorCellIdx r.x + w := by omega
    have hH : r.y + r.height ≤ sfGetAlignedFloorCellIdx r.y + h := by omega
    simp [sfCalcAdjustedCellIdxRect, hr, boostAssert_of, hxle, hyle, hw, hh, hW, hH]
  · simp only [Within]
    omega

end Ros2WsDemo.ServerMapHolder

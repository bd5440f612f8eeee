import Ros2WsDemo.MapHolder.MachineAgrees
import Ros2WsDemo.MapHolder.RectAlgebra

/-!
# Aligning a cell rectangle

Adjusting a rectangle is a closure operator on rectangles ordered by their cells.  On
32-bit integers it is computed as such unless the hull begins at the first index of `int`,
whose negation is no `int`.
-/

namespace Ros2WsDemo.ServerMapHolder

open MachineInt

/-! ## The closure operator -/

def EdgesAligned (r : RectangleI) : Prop :=
  16 ∣ r.x ∧ 16 ∣ r.x + r.width ∧ 16 ∣ r.y ∧ 16 ∣ r.y + r.height

theorem edgesAligned_iff {r : RectangleI} : EdgesAligned r ↔ Aligned r := by
  unfold EdgesAligned Aligned
  omega

theorem alignedHull_not_empty {r : RectangleI} (hr : ¬sfIsCellIdxRectEmpty r) :
    ¬sfIsCellIdxRectEmpty (alignedHull r) :=
  not_empty_of_within hr (within_alignedHull r)

theorem le_alignedHull (r : RectangleI) : r ≤ alignedHull r :=
  fun _ => (within_alignedHull r).contain

theorem alignedHull_le {r s : RectangleI} (hr : ¬sfIsCellIdxRectEmpty r) (hs : EdgesAligned s)
    (h : r ≤ s) : alignedHull r ≤ s := by
  rw [le_iff_within (alignedHull_not_empty hr)]
  exact alignedHull_least (edgesAligned_iff.mp hs) ((le_iff_within hr).mp h)

theorem alignedHull_isLeast {r : RectangleI} (hr : ¬sfIsCellIdxRectEmpty r) :
    IsLeast {t | EdgesAligned t ∧ r ≤ t} (alignedHull r) :=
  ⟨⟨edgesAligned_iff.mpr (alignedHull_aligned r), le_alignedHull r⟩,
    fun _ ht => alignedHull_le hr ht.1 ht.2⟩

/-- What `sfCalcAdjustedCellIdxRect_` returns. -/
def adjustedRect (r : RectangleI) : RectangleI :=
  if sfIsCellIdxRectEmpty r then {} else alignedHull r

theorem adjustedRect_of {r : RectangleI} (hr : ¬sfIsCellIdxRectEmpty r) :
    adjustedRect r = alignedHull r := if_neg hr

theorem adjusted_eq (r : RectangleI) : sfCalcAdjustedCellIdxRect r = .ok (adjustedRect r) := by
  by_cases hr : sfIsCellIdxRectEmpty r
  · rw [sfCalcAdjustedCellIdxRect, if_pos hr, adjustedRect, if_pos hr]
  · rw [adjusted_eq_alignedHull hr, adjustedRect_of hr]

theorem adjustedRect_mono {r s : RectangleI} (h : r ≤ s) : adjustedRect r ≤ adjustedRect s := by
  by_cases hr : sfIsCellIdxRectEmpty r
  · rw [adjustedRect, if_pos hr]
    exact le_of_empty (Or.inl le_rfl) _
  · rw [adjustedRect_of hr, adjustedRect_of (not_empty_of_le hr h)]
    exact alignedHull_le hr (edgesAligned_iff.mpr (alignedHull_aligned s))
      (h.trans (le_alignedHull s))

theorem adjustedRect_idem (r : RectangleI) : adjustedRect (adjustedRect r) = adjustedRect r := by
  by_cases hr : sfIsCellIdxRectEmpty r
  · rw [adjustedRect, adjustedRect, if_pos hr]
    exact if_pos (Or.inl le_rfl)
  · have hne := alignedHull_not_empty hr
    rw [adjustedRect_of hr, adjustedRect_of hne]
    have hle := alignedHull_le hne (edgesAligned_iff.mpr (alignedHull_aligned r)) le_rfl
    exact eq_of_le_of_ge (alignedHull_not_empty hne) hle (le_alignedHull _)

/-- Adjusting to the alignment, as a closure operator on rectangles. -/
def alignClosure : ClosureOperator RectangleI where
  toFun := adjustedRect
  monotone' _ _ := adjustedRect_mono
  le_closure' r := by
    by_cases hr : sfIsCellIdxRectEmpty r
    · exact le_of_empty hr _
    · rw [adjustedRect_of hr]
      exact le_alignedHull r
  idempotent' := adjustedRect_idem

theorem alignClosure_of {r : RectangleI} (hr : ¬sfIsCellIdxRectEmpty r) :
    alignClosure r = alignedHull r := adjustedRect_of hr

/-! ## On 32-bit integers -/

/-- Position, size and end of the hull are values of `int`. -/
def HullFits (r : RectangleI) : Prop :=
  Fits (alignedHull r).x ∧ Fits (alignedHull r).y ∧
    Fits (alignedHull r).width ∧ Fits (alignedHull r).height ∧
    Fits ((alignedHull r).x + (alignedHull r).width) ∧
    Fits ((alignedHull r).y + (alignedHull r).height)

instance (r : RectangleI) : Decidable (HullFits r) := inferInstanceAs (Decidable (_ ∧ _))

/-- The hull does not begin at the first index of `int`. -/
def AboveFirst (r : RectangleI) : Prop := -2 ^ 31 + 16 ≤ r.x ∧ -2 ^ 31 + 16 ≤ r.y

theorem aboveFirst_alignedHull {r : RectangleI} (h : AboveFirst r) :
    AboveFirst (alignedHull r) := by
  simp only [AboveFirst, alignedHull] at *
  omega

theorem AboveFirst.of_within {r s : RectangleI} (hs : AboveFirst s) (h : Within r s) :
    AboveFirst r :=
  ⟨hs.1.trans h.1, hs.2.trans h.2.2.1⟩

theorem HullFits.of_within {r s : RectangleI} (hr : ¬sfIsCellIdxRectEmpty r) (hs : HullFits s)
    (h : Within r s) : HullFits r := by
  have hne := not_empty_iff.mp (alignedHull_not_empty hr)
  have hhull : Within (alignedHull r) (alignedHull s) := alignedHull_mono h
  unfold HullFits Fits Within at *
  omega

/-- One axis: the size is rounded up from the edge that is rounded down already. -/
theorem alignedAxis32 {α : Type} {pos size : ℤ} (hsize : 0 < size)
    (hfirst : -2 ^ 31 + 16 ≤ pos) (hfits : Fits (-(-(pos + size) / 16) * 16))
    (hsizeFits : Fits (-(-(pos + size) / 16) * 16 - pos / 16 * 16)) (expr : String)
    (f : ℤ → Except Halt α) :
    (do
      let t ← sfGetAlignedCeilSize32 (← int32 (pos + size - pos / 16 * 16))
      let posEnd ← int32 (pos / 16 * 16 + t)
      boostAssert32 (pos + size ≤ posEnd) expr
      f t) = f (-(-(pos + size) / 16) * 16 - pos / 16 * 16) := by
  obtain ⟨-, hend⟩ := hfits
  obtain ⟨-, hmax⟩ := hsizeFits
  have hreq : int32 (pos + size - pos / 16 * 16) = .ok (pos + size - pos / 16 * 16) :=
    if_pos ⟨by omega, by omega⟩
  have hceil : sfGetAlignedCeilSize32 (pos + size - pos / 16 * 16) =
      .ok (-(-(pos + size) / 16) * 16 - pos / 16 * 16) := by
    rw [alignedCeilSize32_eq (by omega) (by omega), wrap_of_lt (by omega) (by omega)]
    congr 1
    omega
  have hsum : int32 (pos / 16 * 16 + (-(-(pos + size) / 16) * 16 - pos / 16 * 16)) =
      .ok (-(-(pos + size) / 16) * 16) := by
    rw [add_sub_cancel]
    exact if_pos ⟨by omega, hend⟩
  have hassert : boostAssert32 (pos + size ≤ -(-(pos + size) / 16) * 16) expr = .ok () := by
    rw [boostAssert32, boostAssert_of (by omega)]
    rfl
  simp only [hreq, hceil, hsum, hassert, except_ok_bind]

theorem adjusted32_eq {r : RectangleI} (hr : ¬sfIsCellIdxRectEmpty r) (hfits : HullFits r)
    (habove : AboveFirst r) : sfCalcAdjustedCellIdxRect32 r = .ok (alignedHull r) := by
  obtain ⟨hx, hy⟩ := habove
  obtain ⟨hw, hh⟩ := not_empty_iff.mp hr
  simp only [HullFits, alignedHull, add_sub_cancel] at hfits
  obtain ⟨-, -, hwidth, hheight, hxEnd, hyEnd⟩ := hfits
  have hxMax := hxEnd.2
  have hyMax := hyEnd.2
  have hreqX : int32 (r.x + r.width) = .ok (r.x + r.width) := if_pos ⟨by omega, by omega⟩
  have hreqY : int32 (r.y + r.height) = .ok (r.y + r.height) := if_pos ⟨by omega, by omega⟩
  have hassertX : boostAssert32 (r.x / 16 * 16 ≤ r.x) "xMin <= idxRect.x()" = .ok () := by
    rw [boostAssert32, boostAssert_of (by omega)]
    rfl
  have hassertY : boostAssert32 (r.y / 16 * 16 ≤ r.y) "yMin <= idxRect.y()" = .ok () := by
    rw [boostAssert32, boostAssert_of (by omega)]
    rfl
  unfold sfCalcAdjustedCellIdxRect32
  simp only [if_neg hr, alignedFloor32_eq hx (by omega), alignedFloor32_eq hy (by omega),
    except_ok_bind, hassertX, hassertY, hreqX, hreqY]
  rw [alignedAxis32 hw hx hxEnd hwidth, alignedAxis32 hh hy hyEnd hheight]
  rfl

theorem adjusted32_overflow {r : RectangleI} (hr : ¬sfIsCellIdxRectEmpty r) (hfits : HullFits r)
    (hfirst : ¬AboveFirst r) (s : RectangleI) : sfCalcAdjustedCellIdxRect32 r ≠ .ok s := by
  have hlo : -2 ^ 31 ≤ r.x ∧ -2 ^ 31 ≤ r.y := by
    simp only [HullFits, Fits, alignedHull] at hfits
    omega
  intro hok
  rw [sfCalcAdjustedCellIdxRect32, if_neg hr] at hok
  obtain ⟨xMin, hx, hok⟩ := ExceptState.ok_bind hok
  obtain ⟨-, -, hok⟩ := ExceptState.ok_bind hok
  obtain ⟨yMin, hy, -⟩ := ExceptState.ok_bind hok
  rcases not_and_or.mp hfirst with hxFirst | hyFirst
  · rw [alignedFloor32_overflow hlo.1 (not_le.mp hxFirst)] at hx
    cases hx
  · rw [alignedFloor32_overflow hlo.2 (not_le.mp hyFirst)] at hy
    cases hy

/-- Adjusting `r` returns the least rectangle with aligned edges around it; adjusting that
changes nothing, and what lies in `r` is adjusted to something within it. -/
def AdjustsToHull (r : RectangleI) : Prop :=
  ∃ s, sfCalcAdjustedCellIdxRect32 r = .ok s ∧ IsLeast {t | EdgesAligned t ∧ r ≤ t} s ∧
    sfCalcAdjustedCellIdxRect32 s = .ok s ∧
    ∀ r', ¬sfIsCellIdxRectEmpty r' → r' ≤ r →
      ∃ s', sfCalcAdjustedCellIdxRect32 r' = .ok s' ∧ s' ≤ s

theorem adjustsToHull_iff {r : RectangleI} (hr : ¬sfIsCellIdxRectEmpty r) (hfits : HullFits r) :
    AdjustsToHull r ↔ AboveFirst r := by
  constructor
  · rintro ⟨s, hs, -⟩
    by_contra hfirst
    exact adjusted32_overflow hr hfits hfirst s hs
  · intro habove
    have hne := alignedHull_not_empty hr
    have hidem : alignedHull (alignedHull r) = alignedHull r := by
      rw [← alignClosure_of hne, ← alignClosure_of hr, alignClosure.idempotent]
    have hfits' : HullFits (alignedHull r) := by
      unfold HullFits at hfits ⊢
      rwa [hidem]
    refine ⟨alignedHull r, adjusted32_eq hr hfits habove, alignedHull_isLeast hr, ?_, ?_⟩
    · rw [adjusted32_eq hne hfits' (aboveFirst_alignedHull habove), hidem]
    · intro r' hr' hle
      have hwithin := (le_iff_within hr').mp hle
      refine ⟨alignedHull r', adjusted32_eq hr' (hfits.of_within hr' hwithin)
        (habove.of_within hwithin), ?_⟩
      rw [← alignClosure_of hr', ← alignClosure_of hr]
      exact alignClosure.monotone hle

/-- A rectangle across the origin. -/
theorem adjustsToHull_origin : AdjustsToHull ⟨-20, -16, 37, 16⟩ :=
  (adjustsToHull_iff (by decide) (by decide)).mpr ⟨by decide, by decide⟩

/-- The first index of `int` is aligned and cannot be adjusted. -/
theorem adjustsToHull_not_first : ¬ ∀ r : RectangleI, ¬sfIsCellIdxRectEmpty r → HullFits r →
    AdjustsToHull r := by
  intro hall
  obtain ⟨s, hs, -⟩ := hall ⟨-2 ^ 31, 0, 16, 16⟩ (by decide) (by decide)
  have hover : sfCalcAdjustedCellIdxRect32 ⟨-2 ^ 31, 0, 16, 16⟩ = .error .signedOverflow := by
    decide
  rw [hover] at hs
  cases hs

end Ros2WsDemo.ServerMapHolder

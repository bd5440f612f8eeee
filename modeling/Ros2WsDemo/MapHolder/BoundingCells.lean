import Mathlib.Data.Rat.Floor
import Ros2WsDemo.MapHolder.CellRect

/-!
# The cells that bound an area

In exact arithmetic the cells that cover an area reach from the floor of its lower
edges to the ceiling of its upper edges.  `sfCalcMinBoundingCellIdxRect` takes the
floor on both sides and the cell behind it, so it goes one cell too far where an upper
edge lies between two cells.
-/

namespace Ros2WsDemo.ServerMapHolder

variable {K : Type} [Field K] [LinearOrder K] [IsStrictOrderedRing K] [FloorRing K]

/-! ## One axis -/

section Axis

variable {resolution a size : K}

theorem mul_le_iff_le_floor (hres : 0 < resolution) (n : ℤ) :
    resolution * n ≤ a ↔ n ≤ ⌊a / resolution⌋ := by
  rw [Int.le_floor, le_div_iff₀ hres, mul_comm]

theorem le_mul_iff_ceil_le (hres : 0 < resolution) (n : ℤ) :
    a ≤ resolution * n ↔ ⌈a / resolution⌉ ≤ n := by
  rw [Int.ceil_le, div_le_iff₀ hres, mul_comm]

/-- The position lies between two cells. -/
def OnCellBoundary (resolution a : K) : Prop := ∃ n : ℤ, a = resolution * n

theorem ceil_eq_floor_add_one_iff (hres : 0 < resolution) :
    ⌈a / resolution⌉ = ⌊a / resolution⌋ + 1 ↔ ¬OnCellBoundary resolution a := by
  constructor
  · rintro hceil ⟨n, rfl⟩
    rw [mul_div_cancel_left₀ _ hres.ne', Int.ceil_intCast, Int.floor_intCast] at hceil
    omega
  · intro hoff
    refine le_antisymm (Int.ceil_le_floor_add_one _) ?_
    rw [Int.add_one_le_iff, Int.lt_ceil]
    refine lt_of_le_of_ne (Int.floor_le _) fun heq => hoff ⟨⌊a / resolution⌋, ?_⟩
    rw [heq, mul_div_cancel₀ _ hres.ne']

/-- The correction below the floor never applies. -/
theorem minBoundingIdxMin_eq (hres : 0 < resolution) :
    minBoundingIdxMin resolution a = ⌊a / resolution⌋ := by
  have hle : resolution * (⌊a / resolution⌋ : ℤ) ≤ a := (mul_le_iff_le_floor hres _).mpr le_rfl
  exact if_neg fun h => (exact_lt_iff.mp h).not_ge hle

/-- Nor does the one above. -/
theorem minBoundingIdxMax_eq (hres : 0 < resolution) (hsize : 0 < size) :
    minBoundingIdxMax resolution a size = ⌊(a + size) / resolution⌋ := by
  have hpos : FloatArith.lt (FloatArith.ofInt 0) size = true := by
    refine exact_lt_iff.mpr ?_
    change ((0 : ℤ) : K) < size
    rwa [Int.cast_zero]
  have hle : a + size ≤ resolution * ((⌊(a + size) / resolution⌋ + 1 : ℤ) : K) :=
    (le_mul_iff_ceil_le hres _).mpr (Int.ceil_le_floor_add_one _)
  unfold minBoundingIdxMax
  rw [if_pos hpos]
  exact if_neg fun h => (exact_lt_iff.mp h).not_ge hle

end Axis

/-! ## Areas -/

/-- One area covers another. -/
def AreaCovers (cover area : RectangleF K) : Prop :=
  cover.x ≤ area.x ∧ area.x + area.width ≤ cover.x + cover.width ∧
    cover.y ≤ area.y ∧ area.y + area.height ≤ cover.y + cover.height

/-- The smallest rectangle of cells whose area covers the given one. -/
def TightCover (resolution : K) (area : RectangleF K) (r : RectangleI) : Prop :=
  AreaCovers (cellArea resolution r) area ∧
    ∀ s, AreaCovers (cellArea resolution s) area → Within r s

/-- `sfCalcMinBoundingCellIdxRect` returns the smallest cover. -/
def TightlyBounded (resolution : K) (area : RectangleF K) : Prop :=
  ∃ r, sfCalcMinBoundingCellIdxRect resolution area = .ok r ∧ TightCover resolution area r

/-- From cells to an area and back. -/
def areaAndBack (resolution : K) (r : RectangleI) : Except Exn RectangleI := do
  sfCalcMinBoundingCellIdxRect resolution (← sfCalcAreaByCellIdxRect resolution r)

section Area

variable {resolution : K} {area : RectangleF K}

/-- A rectangle covers an area exactly if it reaches from the floors to the ceilings. -/
theorem areaCovers_iff (hres : 0 < resolution) (r : RectangleI) :
    AreaCovers (cellArea resolution r) area ↔
      r.x ≤ ⌊area.x / resolution⌋ ∧ ⌈(area.x + area.width) / resolution⌉ ≤ r.x + r.width ∧
        r.y ≤ ⌊area.y / resolution⌋ ∧ ⌈(area.y + area.height) / resolution⌉ ≤ r.y + r.height := by
  have hend : ∀ x w : ℤ, resolution * x + resolution * w = resolution * ((x + w : ℤ) : K) := by
    intro x w
    rw [Int.cast_add, mul_add]
  rw [← mul_le_iff_le_floor hres, ← mul_le_iff_le_floor hres, ← le_mul_iff_ceil_le hres,
    ← le_mul_iff_ceil_le hres, ← hend, ← hend]
  exact Iff.rfl

theorem minBounding_eq (hres : FloatArith.lt FloatArith.epsilon resolution = true)
    (hpos : 0 < resolution) (hwidth : 0 < area.width) (hheight : 0 < area.height) :
    sfCalcMinBoundingCellIdxRect resolution area =
      .ok ⟨⌊area.x / resolution⌋, ⌊area.y / resolution⌋,
        ⌊(area.x + area.width) / resolution⌋ - ⌊area.x / resolution⌋ + 1,
        ⌊(area.y + area.height) / resolution⌋ - ⌊area.y / resolution⌋ + 1⟩ := by
  have hx : ⌊area.x / resolution⌋ ≤ ⌊(area.x + area.width) / resolution⌋ :=
    Int.floor_mono (div_le_div_of_nonneg_right (le_add_of_nonneg_right hwidth.le) hpos.le)
  have hy : ⌊area.y / resolution⌋ ≤ ⌊(area.y + area.height) / resolution⌋ :=
    Int.floor_mono (div_le_div_of_nonneg_right (le_add_of_nonneg_right hheight.le) hpos.le)
  unfold sfCalcMinBoundingCellIdxRect
  simp only [minBoundingIdxMin_eq hpos, minBoundingIdxMax_eq hpos hwidth,
    minBoundingIdxMax_eq hpos hheight, checkResolutionAssert_of hres, boostAssert_of hx,
    boostAssert_of hy, except_ok_bind]
  rfl

/-- The smallest cover ends at the ceilings of the upper edges. -/
theorem tightCover_iff (hres : 0 < resolution) (r : RectangleI) :
    TightCover resolution area r ↔
      r = ⟨⌊area.x / resolution⌋, ⌊area.y / resolution⌋,
        ⌈(area.x + area.width) / resolution⌉ - ⌊area.x / resolution⌋,
        ⌈(area.y + area.height) / resolution⌉ - ⌊area.y / resolution⌋⟩ := by
  have hcovers : AreaCovers (cellArea resolution
      ⟨⌊area.x / resolution⌋, ⌊area.y / resolution⌋,
        ⌈(area.x + area.width) / resolution⌉ - ⌊area.x / resolution⌋,
        ⌈(area.y + area.height) / resolution⌉ - ⌊area.y / resolution⌋⟩) area := by
    rw [areaCovers_iff hres]
    simp
  have hleast : ∀ s, AreaCovers (cellArea resolution s) area →
      Within ⟨⌊area.x / resolution⌋, ⌊area.y / resolution⌋,
        ⌈(area.x + area.width) / resolution⌉ - ⌊area.x / resolution⌋,
        ⌈(area.y + area.height) / resolution⌉ - ⌊area.y / resolution⌋⟩ s := by
    intro s hs
    obtain ⟨hx, hx', hy, hy'⟩ := (areaCovers_iff hres s).mp hs
    exact ⟨hx, by simpa using hx', hy, by simpa using hy'⟩
  constructor
  · rintro ⟨hcover, hsmallest⟩
    exact eq_of_within (hsmallest _ hcovers) (hleast r hcover)
  · rintro rfl
    exact ⟨hcovers, hleast⟩

theorem tightlyBounded_iff (hwidth : 0 < area.width) (hheight : 0 < area.height) :
    TightlyBounded resolution area ↔
      FloatArith.epsilon < resolution ∧ ¬OnCellBoundary resolution (area.x + area.width) ∧
        ¬OnCellBoundary resolution (area.y + area.height) := by
  by_cases hres : FloatArith.lt FloatArith.epsilon resolution = true
  · have hlt := exact_lt_iff.mp hres
    have hpos := exact_pos hres
    unfold TightlyBounded
    rw [minBounding_eq hres hpos hwidth hheight, ← ceil_eq_floor_add_one_iff hpos,
      ← ceil_eq_floor_add_one_iff hpos]
    constructor
    · rintro ⟨r, hr, htight⟩
      cases hr
      rw [tightCover_iff hpos, RectangleI.mk.injEq] at htight
      obtain ⟨-, -, hx, hy⟩ := htight
      exact ⟨hlt, by omega, by omega⟩
    · rintro ⟨-, hx, hy⟩
      refine ⟨_, rfl, ?_⟩
      rw [tightCover_iff hpos, hx, hy, RectangleI.mk.injEq]
      exact ⟨rfl, rfl, by omega, by omega⟩
  · constructor
    · rintro ⟨r, hr, -⟩
      unfold sfCalcMinBoundingCellIdxRect checkResolutionAssert boostAssert at hr
      rw [if_neg hres] at hr
      cases hr
    · rintro ⟨hlt, -⟩
      exact absurd (exact_lt_iff.mpr hlt) hres

/-- Both upper edges of the area of cells lie between two cells. -/
theorem areaAndBack_eq (hres : FloatArith.lt FloatArith.epsilon resolution = true)
    (hpos : 0 < resolution) {r : RectangleI} (hr : ¬sfIsCellIdxRectEmpty r) :
    areaAndBack resolution r = .ok ⟨r.x, r.y, r.width + 1, r.height + 1⟩ := by
  obtain ⟨hw, hh⟩ := not_empty_iff.mp hr
  have hcast : ∀ n : ℤ, 0 < n → 0 < resolution * (n : K) := fun n hn =>
    mul_pos hpos (Int.cast_pos.mpr hn)
  have hfloor : ∀ n : ℤ, ⌊resolution * (n : K) / resolution⌋ = n := by
    intro n
    rw [mul_div_cancel_left₀ _ hpos.ne', Int.floor_intCast]
  have hend : ∀ x w : ℤ, ⌊(resolution * (x : K) + resolution * (w : K)) / resolution⌋ = x + w := by
    intro x w
    rw [← mul_add, ← Int.cast_add]
    exact hfloor _
  unfold areaAndBack
  rw [calcArea_eq hres]
  refine (minBounding_eq hres hpos (hcast _ hw) (hcast _ hh)).trans ?_
  rw [Except.ok.injEq, RectangleI.mk.injEq]
  have hx : ⌊(cellArea resolution r).x / resolution⌋ = r.x := hfloor r.x
  have hy : ⌊(cellArea resolution r).y / resolution⌋ = r.y := hfloor r.y
  have hxEnd : ⌊((cellArea resolution r).x + (cellArea resolution r).width) / resolution⌋ =
      r.x + r.width := hend r.x r.width
  have hyEnd : ⌊((cellArea resolution r).y + (cellArea resolution r).height) / resolution⌋ =
      r.y + r.height := hend r.y r.height
  rw [hx, hy, hxEnd, hyEnd]
  exact ⟨rfl, rfl, by omega, by omega⟩

end Area

/-- For areas the cover is the smallest exactly if neither upper edge lies between two
cells; from cells to their area and back the rectangle always grows. -/
theorem minBounding_tight_iff {resolution : K} (hres : 0 < resolution) :
    (∀ area : RectangleF K, 0 < area.width → 0 < area.height →
      (TightlyBounded resolution area ↔
        FloatArith.epsilon < resolution ∧ ¬OnCellBoundary resolution (area.x + area.width) ∧
          ¬OnCellBoundary resolution (area.y + area.height))) ∧
      ∀ r, ¬sfIsCellIdxRectEmpty r → areaAndBack resolution r ≠ .ok r := by
  refine ⟨fun area hwidth hheight => tightlyBounded_iff hwidth hheight, ?_⟩
  intro r hr hback
  by_cases hvalid : FloatArith.lt FloatArith.epsilon resolution = true
  · rw [areaAndBack_eq hvalid hres hr] at hback
    have hwidth := congrArg RectangleI.width (Except.ok.inj hback)
    simp only at hwidth
    omega
  · unfold areaAndBack sfCalcAreaByCellIdxRect checkResolutionAssert boostAssert at hback
    rw [if_neg hvalid] at hback
    cases hback

/-- An area whose upper edges lie within cells. -/
theorem minBounding_tight_inside :
    TightlyBounded (1 / 4 : ℚ) ⟨1 / 16, -1 / 8, 1 / 8, 1 / 16⟩ := by
  have hquarter : (0 : ℚ) < 1 / 4 := by norm_num
  refine ((minBounding_tight_iff hquarter).1
    ⟨1 / 16, -1 / 8, 1 / 8, 1 / 16⟩ (by norm_num) (by norm_num)).mpr ⟨?_, ?_, ?_⟩
  · change (1 / 8388608 : ℚ) < 1 / 4
    norm_num
  · rintro ⟨n, hn⟩
    have hn' : (3 : ℚ) = 4 * n := by linarith
    have hint : (3 : ℤ) = 4 * n := by exact_mod_cast hn'
    omega
  · rintro ⟨n, hn⟩
    have hn' : (-1 : ℚ) = 4 * n := by linarith
    have hint : (-1 : ℤ) = 4 * n := by exact_mod_cast hn'
    omega

/-- One cell becomes four on the way back. -/
theorem minBounding_grows : ¬ ∀ resolution : ℚ, 0 < resolution →
    (∀ area : RectangleF ℚ, 0 < area.width → 0 < area.height → TightlyBounded resolution area) ∧
      ∀ r, ¬sfIsCellIdxRectEmpty r → areaAndBack resolution r = .ok r := by
  intro h
  have hback := (h (1 / 4) (by norm_num)).2 ⟨0, 0, 1, 1⟩ (by decide)
  have hvalid : FloatArith.lt FloatArith.epsilon (1 / 4 : ℚ) = true := by decide +kernel
  rw [areaAndBack_eq hvalid (by norm_num) (by decide)] at hback
  cases hback

end Ros2WsDemo.ServerMapHolder

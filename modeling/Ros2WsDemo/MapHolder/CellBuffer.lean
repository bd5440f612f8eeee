import Ros2WsDemo.MapHolder.Holder

/-!
# The cells held by a buffer

A buffer laid out for a rectangle gives a byte to every cell of the plane: the
stored one inside the rectangle, 0 outside.  The three row loops of the source
are instances of one operation, moving the cells of a part of one rectangle into
a buffer laid out for another.
-/

namespace Ros2WsDemo.ServerMapHolder

open StridedCopy

variable {F : Type}

/-- The offset of a cell in a buffer laid out for `r`. -/
def cellOffset (r : RectangleI) (x y : ℤ) : ℤ := (y - r.y) * r.width + (x - r.x)

def cellOf (r : RectangleI) (dat : List UInt8) (x y : ℤ) : UInt8 :=
  if sfDoesCellIdxRectContain r x y then (ofList dat (cellOffset r x y)).getD 0 else 0

/-- The byte a holder has for a cell. -/
def byteAt (h : ServerMapHolder F) (x y : ℤ) : UInt8 :=
  cellOf h.availCellIdxRect h.mapDat x y

theorem cellOf_of_contain {r : RectangleI} {x y : ℤ} (h : sfDoesCellIdxRectContain r x y)
    (dat : List UInt8) : cellOf r dat x y = (ofList dat (cellOffset r x y)).getD 0 :=
  if_pos h

theorem cellOf_of_not_contain {r : RectangleI} {x y : ℤ} (h : ¬sfDoesCellIdxRectContain r x y)
    (dat : List UInt8) : cellOf r dat x y = 0 :=
  if_neg h

theorem cellOffset_add (r : RectangleI) (x y i j : ℤ) :
    cellOffset r (x + i) (y + j) = cellOffset r x y + j * r.width + i := by
  simp only [cellOffset]
  ring

theorem cellOffset_bounds {r : RectangleI} {x y : ℤ} (h : sfDoesCellIdxRectContain r x y) :
    0 ≤ cellOffset r x y ∧ cellOffset r x y < r.width * r.height := by
  obtain ⟨hw, hh, hx0, hx1, hy0, hy1⟩ := h
  have hrow : 0 ≤ (y - r.y) * r.width := mul_nonneg (by omega) hw.le
  have hlast : (y - r.y + 1) * r.width ≤ r.height * r.width :=
    mul_le_mul_of_nonneg_right (by omega) hw.le
  constructor
  · simp only [cellOffset]
    omega
  · simp only [cellOffset]
    linarith

theorem ofList_isSome_of_contain {α : Type} {r : RectangleI} {dat : List α} {x y : ℤ}
    (hlen : r.width * r.height ≤ dat.length) (h : sfDoesCellIdxRectContain r x y) :
    (ofList dat (cellOffset r x y)).isSome := by
  obtain ⟨h0, h1⟩ := cellOffset_bounds h
  exact ofList_isSome h0 (h1.trans_le hlen)

/-- Two row-major vectors for the same rectangle agree when they agree on its cells. -/
theorem rowMajor_ext {α : Type} {r : RectangleI} (hr : ¬sfIsCellIdxRectEmpty r) {l l' : List α}
    (hl : l.length = r.width.toNat * r.height.toNat) (hlen : l'.length = l.length)
    (h : ∀ x y, sfDoesCellIdxRectContain r x y →
      ofList l (cellOffset r x y) = ofList l' (cellOffset r x y)) : l = l' := by
  obtain ⟨hw, hh⟩ := not_empty_iff.mp hr
  apply List.ext_getElem?
  intro k
  by_cases hk : k < l.length
  · obtain ⟨i, j, hi, hj, hkij⟩ : ∃ i j, i < r.width.toNat ∧ j < r.height.toNat ∧
        k = j * r.width.toNat + i :=
      ⟨k % r.width.toNat, k / r.width.toNat, Nat.mod_lt k (by omega),
        Nat.div_lt_of_lt_mul (hl ▸ hk), (Nat.div_add_mod' k _).symm⟩
    have hoff : cellOffset r (r.x + i) (r.y + j) = (k : ℤ) := by
      rw [cellOffset_add, hkij, Nat.cast_add, Nat.cast_mul, Int.toNat_of_nonneg hw.le]
      simp [cellOffset]
    have hcell := h (r.x + i) (r.y + j) ⟨hw, hh, by omega, by omega, by omega, by omega⟩
    rwa [hoff, ofList_ofNat, ofList_ofNat] at hcell
  · rw [List.getElem?_eq_none (by omega), List.getElem?_eq_none (by omega)]

/-- Moving the cells of `part` from a buffer laid out for `srcRect` into one laid
out for `dstRect` changes exactly the cells of `part`. -/
theorem copyRows_cells {α β : Type} (f : α → β) (src : ℤ → Option α)
    (srcRect dstRect part : RectangleI) (dst : List β)
    (hne : ¬sfIsCellIdxRectEmpty part) (hpart : Within part dstRect)
    (hlen : dstRect.width * dstRect.height ≤ dst.length)
    (hsrc : ∀ x y, sfDoesCellIdxRectContain part x y → (src (cellOffset srcRect x y)).isSome) :
    ∃ dst', copyRows f src part.width.toNat srcRect.width dstRect.width part.height.toNat
        (cellOffset srcRect part.x part.y) (cellOffset dstRect part.x part.y) dst = some dst' ∧
      dst'.length = dst.length ∧
      ∀ x y, sfDoesCellIdxRectContain dstRect x y → ofList dst' (cellOffset dstRect x y) =
        if sfDoesCellIdxRectContain part x y then (src (cellOffset srcRect x y)).map f
        else ofList dst (cellOffset dstRect x y) := by
  obtain ⟨hw, hh⟩ := not_empty_iff.mp hne
  obtain ⟨hx0, hx1, hy0, hy1⟩ := hpart
  have hwn : (part.width.toNat : ℤ) = part.width := Int.toNat_of_nonneg hw.le
  have hhn : (part.height.toNat : ℤ) = part.height := Int.toNat_of_nonneg hh.le
  have hrows : (part.y - dstRect.y + part.height) * dstRect.width ≤ dst.length := by
    have hle : (part.y - dstRect.y + part.height) * dstRect.width ≤
        dstRect.height * dstRect.width :=
      mul_le_mul_of_nonneg_right (by omega) (by omega)
    linarith
  obtain ⟨dst', hcopy, hlen', hread⟩ := copyRows_spec f src part.width.toNat srcRect.width
    dstRect.width part.height.toNat (cellOffset srcRect part.x part.y) (part.x - dstRect.x)
    (part.y - dstRect.y) dst (by omega) (by omega) (by omega) (by rwa [hhn])
    (by
      intro j i hj0 hj hi0 hi
      have hcell := hsrc (part.x + i) (part.y + j)
        ⟨hw, hh, by omega, by omega, by omega, by omega⟩
      rwa [cellOffset_add] at hcell)
  refine ⟨dst', hcopy, hlen', ?_⟩
  intro x y hxy
  have hcell := hread (x - dstRect.x) (y - dstRect.y) (by have := hxy.2.2; omega)
    (by have := hxy.2.2; omega)
  rw [hwn, hhn] at hcell
  rw [show cellOffset dstRect x y = (y - dstRect.y) * dstRect.width + (x - dstRect.x) from rfl,
    hcell]
  by_cases hin : sfDoesCellIdxRectContain part x y
  · obtain ⟨-, -, h₁, h₂, h₃, h₄⟩ := hin
    have hoff : cellOffset srcRect x y = cellOffset srcRect part.x part.y +
        (y - dstRect.y - (part.y - dstRect.y)) * srcRect.width +
        (x - dstRect.x - (part.x - dstRect.x)) := by
      simp only [cellOffset]
      ring
    rw [if_pos ⟨⟨by omega, by omega⟩, by omega, by omega⟩, if_pos ⟨hw, hh, h₁, h₂, h₃, h₄⟩, hoff]
  · rw [if_neg hin, if_neg]
    rintro ⟨⟨h₁, h₂⟩, h₃, h₄⟩
    exact hin ⟨hw, hh, by omega, by omega, by omega, by omega⟩

end Ros2WsDemo.ServerMapHolder

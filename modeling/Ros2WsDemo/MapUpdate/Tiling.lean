import Ros2WsDemo.Lib.Chunks
import Ros2WsDemo.MapUpdate.Worker

/-!
# The tiles of a whole-map sync

The two nested loops of `syncWholeMap_` fetch the tiles of a list, row by row.
The list partitions the known rectangle.
-/

namespace Ros2WsDemo.ServerExploreMapUpdateWorker

open Effect ServerMapHolder Chunks

variable {F : Type} [FloatArith F]

/-- The tiles, in the order in which they are requested. -/
def tiles (iOnceMaxCellCntWH : ℤ) (known : RectangleI) : List RectangleI :=
  (chunks iOnceMaxCellCntWH (known.y + known.height) known.height.toNat known.y).flatMap fun cy =>
    (chunks iOnceMaxCellCntWH (known.x + known.width) known.width.toNat known.x).map fun cx =>
      ⟨cx.1, cy.1, cx.2, cy.2⟩

/-- Update one rectangle after the other until one fails. -/
def fetchTiles : List RectangleI → Worker F Bool
  | [] => return true
  | r :: rs => do
      if !(← updateMapInCellIdxRect r) then
        return false
      fetchTiles rs

theorem fetchTiles_append (rs rs' : List RectangleI) :
    (fetchTiles (rs ++ rs') : Worker F Bool) =
      fetchTiles rs >>= fun ok => if (!ok) = true then pure false else fetchTiles rs' := by
  induction rs with
  | nil => rfl
  | cons r rs ih =>
      simp only [List.cons_append, fetchTiles, ih, Prog.bind_assoc]
      congr 1
      funext ok
      cases ok <;> rfl

theorem syncRow_eq (once xEnd y sizeY : ℤ) (fuel : ℕ) (x : ℤ) :
    (syncRow once xEnd y sizeY fuel x : Worker F Bool) =
      fetchTiles ((chunks once xEnd fuel x).map fun c => ⟨c.1, y, c.2, sizeY⟩) := by
  induction fuel generalizing x with
  | zero => rfl
  | succ fuel ih =>
      by_cases hx : x < xEnd
      · rw [chunks_of_lt fuel hx, List.map_cons, fetchTiles, ← ih, syncRow, if_pos hx]
      · rw [chunks_of_not_lt _ hx, syncRow, if_neg hx]
        rfl

theorem syncRows_eq (once xBegin xEnd yEnd : ℤ) (fuel : ℕ) (y : ℤ) :
    (syncRows once xBegin xEnd yEnd fuel y : Worker F Bool) =
      fetchTiles ((chunks once yEnd fuel y).flatMap fun cy =>
        (chunks once xEnd (xEnd - xBegin).toNat xBegin).map fun cx =>
          ⟨cx.1, cy.1, cx.2, cy.2⟩) := by
  induction fuel generalizing y with
  | zero => rfl
  | succ fuel ih =>
      by_cases hy : y < yEnd
      · rw [chunks_of_lt fuel hy, List.flatMap_cons, fetchTiles_append, ← ih, ← syncRow_eq,
          syncRows, if_pos hy]
      · rw [chunks_of_not_lt _ hy, syncRows, if_neg hy]
        rfl

theorem syncRows_eq_fetchTiles (once : ℤ) (known : RectangleI) :
    (syncRows once known.x (known.x + known.width) (known.y + known.height)
      (known.y + known.height - known.y).toNat known.y : Worker F Bool) =
      fetchTiles (tiles once known) := by
  rw [syncRows_eq, tiles, add_sub_cancel_left, add_sub_cancel_left]

/-! ## The partition -/

section Partition

variable {once : ℤ} {known : RectangleI}

theorem mem_tiles {t : RectangleI} : t ∈ tiles once known ↔
    (t.x, t.width) ∈ chunks once (known.x + known.width) known.width.toNat known.x ∧
      (t.y, t.height) ∈ chunks once (known.y + known.height) known.height.toNat known.y := by
  simp only [tiles, List.mem_flatMap, List.mem_map]
  constructor
  · rintro ⟨cy, hcy, cx, hcx, rfl⟩
    exact ⟨hcx, hcy⟩
  · rintro ⟨hx, hy⟩
    exact ⟨_, hy, _, hx, rfl⟩

/-- Every tile has cells, at most `once` of them on each side, all of them known. -/
theorem tile_bounds (honce : 0 < once) {t : RectangleI} (ht : t ∈ tiles once known) :
    ¬sfIsCellIdxRectEmpty t ∧ t.width ≤ once ∧ t.height ≤ once ∧ Within t known := by
  obtain ⟨hx, hy⟩ := mem_tiles.mp ht
  obtain ⟨hx0, hxpos, hxle, hxe⟩ := bounds_of_mem honce hx
  obtain ⟨hy0, hypos, hyle, hye⟩ := bounds_of_mem honce hy
  exact ⟨not_empty_iff.mpr ⟨hxpos, hypos⟩, hxle, hyle, hx0, hxe, hy0, hye⟩

/-- The union of the tiles is the known rectangle. -/
theorem tiles_cover (honce : 0 < once) (x y : ℤ) :
    (∃ t ∈ tiles once known, sfDoesCellIdxRectContain t x y) ↔
      sfDoesCellIdxRectContain known x y := by
  constructor
  · rintro ⟨t, ht, hxy⟩
    exact (tile_bounds honce ht).2.2.2.contain hxy
  · rintro ⟨hw, hh, hx0, hx1, hy0, hy1⟩
    obtain ⟨cx, hcx, hcx0, hcx1⟩ := exists_mem_of_lt honce known.width.toNat known.x
      (by omega) hx0 hx1
    obtain ⟨cy, hcy, hcy0, hcy1⟩ := exists_mem_of_lt honce known.height.toNat known.y
      (by omega) hy0 hy1
    have hxpos := (bounds_of_mem honce hcx).2.1
    have hypos := (bounds_of_mem honce hcy).2.1
    exact ⟨⟨cx.1, cy.1, cx.2, cy.2⟩, mem_tiles.mpr ⟨hcx, hcy⟩,
      hxpos, hypos, hcx0, hcx1, hcy0, hcy1⟩

/-- No two tiles share a cell. -/
theorem tiles_disjoint (honce : 0 < once) : (tiles once known).Pairwise fun t t' =>
    ∀ x y, ¬(sfDoesCellIdxRectContain t x y ∧ sfDoesCellIdxRectContain t' x y) := by
  rw [tiles, List.pairwise_flatMap]
  constructor
  · intro cy _
    rw [List.pairwise_map]
    refine (pairwise_chunks honce _ _).imp ?_
    rintro cx cx' hle x y ⟨⟨-, -, -, h₁, -⟩, -, -, h₂, -⟩
    simp only at h₁ h₂
    omega
  · refine (pairwise_chunks honce _ _).imp ?_
    rintro cy cy' hle t ht t' ht' x y ⟨⟨-, -, -, -, -, h₁⟩, -, -, -, -, h₂, -⟩
    obtain ⟨cx, -, rfl⟩ := List.mem_map.mp ht
    obtain ⟨cx', -, rfl⟩ := List.mem_map.mp ht'
    simp only at h₁ h₂
    omega

theorem tiles_ne_nil (honce : 0 < once) (hknown : ¬sfIsCellIdxRectEmpty known) :
    tiles once known ≠ [] := by
  obtain ⟨hw, hh⟩ := not_empty_iff.mp hknown
  obtain ⟨t, ht, -⟩ := (tiles_cover honce known.x known.y).mpr
    ⟨hw, hh, le_rfl, by omega, le_rfl, by omega⟩
  exact List.ne_nil_of_mem ht

end Partition

end Ros2WsDemo.ServerExploreMapUpdateWorker

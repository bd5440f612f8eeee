import Mathlib.Order.Closure
import Ros2WsDemo.Lib.PreorderJoin
import Ros2WsDemo.MapHolder.CellRect

/-!
# The algebra of cell rectangles

Rectangles are ordered by their sets of cells.  In this order merging is a join, and
equal cell sets mean equal rectangles unless they are empty.
-/

namespace Ros2WsDemo.ServerMapHolder

open PreorderJoin

/-- The cells of a rectangle. -/
def cells (r : RectangleI) : Set (ℤ × ℤ) := {c | sfDoesCellIdxRectContain r c.1 c.2}

instance : Preorder RectangleI where
  le r s := cells r ⊆ cells s
  le_refl _ := Set.Subset.rfl
  le_trans _ _ _ := Set.Subset.trans

theorem cells_eq_iff {r s : RectangleI} : cells r = cells s ↔ AntisymmRel (· ≤ ·) r s :=
  Set.Subset.antisymm_iff

theorem le_iff_forall_contain {r s : RectangleI} :
    r ≤ s ↔ ∀ x y, sfDoesCellIdxRectContain r x y → sfDoesCellIdxRectContain s x y :=
  Prod.forall

theorem le_of_empty {r : RectangleI} (hr : sfIsCellIdxRectEmpty r) (s : RectangleI) : r ≤ s :=
  fun _ hc => absurd hr (not_empty_of_contain hc)

/-- For a non-empty rectangle inclusion of cells is read off the edges. -/
theorem le_iff_within {r s : RectangleI} (hr : ¬sfIsCellIdxRectEmpty r) : r ≤ s ↔ Within r s := by
  rw [le_iff_forall_contain]
  exact ⟨within_of_contain hr, fun h _ _ => h.contain⟩

theorem not_empty_of_le {r s : RectangleI} (hr : ¬sfIsCellIdxRectEmpty r) (h : r ≤ s) :
    ¬sfIsCellIdxRectEmpty s :=
  not_empty_of_within hr ((le_iff_within hr).mp h)

theorem eq_of_le_of_ge {r s : RectangleI} (hr : ¬sfIsCellIdxRectEmpty r) (h : r ≤ s)
    (h' : s ≤ r) : r = s :=
  eq_of_within ((le_iff_within hr).mp h) ((le_iff_within (not_empty_of_le hr h)).mp h')

/-! ## Merging -/

theorem isJoin_mergedRect : IsJoin mergedRect := by
  intro A B C
  by_cases hB : sfIsCellIdxRectEmpty B
  · rw [mergedRect, if_pos hB]
    exact (and_iff_left (le_of_empty hB C)).symm
  · by_cases hA : sfIsCellIdxRectEmpty A
    · rw [mergedRect, if_neg hB, if_pos hA]
      exact (and_iff_right (le_of_empty hA C)).symm
    · have hM := merge_not_empty (A := A) hB
      rw [le_iff_within hM, le_iff_within hA, le_iff_within hB]
      constructor
      · intro h
        exact ⟨(within_merge_left hA).trans h, (within_merge_right hB).trans h⟩
      · rintro ⟨hAC, hBC⟩
        exact merge_within (fun _ => hAC) (fun _ => hBC) hM

/-- Parts that cover `C` merge to `C`. -/
theorem foldl_merge_eq {C : RectangleI} (hC : ¬sfIsCellIdxRectEmpty C) {rs : List RectangleI}
    (hrs : ∀ r ∈ rs, ¬sfIsCellIdxRectEmpty r ∧ Within r C)
    (hcover : ∀ x y, sfDoesCellIdxRectContain C x y →
      ∃ r ∈ rs, sfDoesCellIdxRectContain r x y) : rs.foldl mergedRect {} = C := by
  have hempty : sfIsCellIdxRectEmpty {} := Or.inl le_rfl
  have hle : rs.foldl mergedRect {} ≤ C := by
    rw [isJoin_mergedRect.foldl_le_iff]
    refine ⟨le_of_empty hempty C, fun r hr => ?_⟩
    exact (le_iff_within (hrs r hr).1).mpr (hrs r hr).2
  have hge : C ≤ rs.foldl mergedRect {} := by
    intro c hc
    obtain ⟨r, hr, hrc⟩ := hcover c.1 c.2 hc
    exact ((isJoin_mergedRect.foldl_le_iff {} rs _).mp le_rfl).2 r hr hrc
  exact (eq_of_le_of_ge hC hge hle).symm

/-- Both calls return, and rectangles with the same cells. -/
def SameCells (m n : Except Exn RectangleI) : Prop :=
  ∃ M N, m = .ok M ∧ n = .ok N ∧ cells M = cells N

theorem sameCells_ok {M N : RectangleI} (h : AntisymmRel (· ≤ ·) M N) :
    SameCells (.ok M) (.ok N) :=
  ⟨M, N, rfl, rfl, cells_eq_iff.mpr h⟩

theorem merge_comm_cells (A B : RectangleI) :
    SameCells (sfMergeCellIdxRect A B) (sfMergeCellIdxRect B A) := by
  rw [merge_eq, merge_eq]
  exact sameCells_ok (isJoin_mergedRect.comm A B)

theorem merge_assoc_cells (A B C : RectangleI) :
    SameCells (do sfMergeCellIdxRect (← sfMergeCellIdxRect A B) C)
      (do sfMergeCellIdxRect A (← sfMergeCellIdxRect B C)) := by
  simp only [merge_eq, except_ok_bind]
  exact sameCells_ok (isJoin_mergedRect.assoc A B C)

theorem merge_empty_left {A : RectangleI} (hA : sfIsCellIdxRectEmpty A) (B : RectangleI) :
    SameCells (sfMergeCellIdxRect A B) (.ok B) := by
  rw [merge_eq]
  exact sameCells_ok (isJoin_mergedRect.of_le (le_of_empty hA B))

theorem merge_empty_right {A : RectangleI} (hA : sfIsCellIdxRectEmpty A) (B : RectangleI) :
    SameCells (sfMergeCellIdxRect B A) (.ok B) := by
  rw [merge_eq]
  exact sameCells_ok (isJoin_mergedRect.of_ge (le_of_empty hA B))

theorem containRect_iff_le {A B : RectangleI} (hB : ¬sfIsCellIdxRectEmpty B) :
    sfDoesCellIdxRectContainRect A B ↔ B ≤ A := by
  rw [containRect_iff hB, le_iff_within hB]
  exact and_iff_right_of_imp (not_empty_of_within hB)

/-- The three functions, read as operations on sets of cells. -/
theorem rectangle_algebra (A B : RectangleI) :
    (∀ x y, sfDoesCellIdxRectContain (sfIntersectionOfCellIdxRect A B) x y ↔
      sfDoesCellIdxRectContain A x y ∧ sfDoesCellIdxRectContain B x y) ∧
    (¬sfIsCellIdxRectEmpty A → ¬sfIsCellIdxRectEmpty B →
      ∃ M, sfMergeCellIdxRect A B = .ok M ∧
        IsLeast {R | cells A ⊆ cells R ∧ cells B ⊆ cells R} M) ∧
    SameCells (sfMergeCellIdxRect A B) (sfMergeCellIdxRect B A) ∧
    (∀ C, SameCells (do sfMergeCellIdxRect (← sfMergeCellIdxRect A B) C)
      (do sfMergeCellIdxRect A (← sfMergeCellIdxRect B C))) ∧
    (sfIsCellIdxRectEmpty A → SameCells (sfMergeCellIdxRect A B) (.ok B) ∧
      SameCells (sfMergeCellIdxRect B A) (.ok B)) ∧
    (¬sfIsCellIdxRectEmpty B → (sfDoesCellIdxRectContainRect A B ↔
      ∀ x y, sfDoesCellIdxRectContain B x y → sfDoesCellIdxRectContain A x y)) := by
  refine ⟨fun x y => contain_intersection_iff, fun _ _ => ?_, merge_comm_cells A B,
    merge_assoc_cells A B, fun hA => ⟨merge_empty_left hA B, merge_empty_right hA B⟩,
    fun hB => ?_⟩
  · refine ⟨mergedRect A B, merge_eq A B, ?_⟩
    exact ⟨⟨isJoin_mergedRect.left_le A B, isJoin_mergedRect.right_le A B⟩,
      fun C hC => (isJoin_mergedRect A B C).mpr hC⟩
  · rw [containRect_iff_le hB, le_iff_forall_contain]

end Ros2WsDemo.ServerMapHolder

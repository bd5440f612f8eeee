import Mathlib.Algebra.Group.Defs
import Mathlib.Logic.Function.Basic

/-!
# Trees of frames

Every frame has at most one parent, and a placement relative to it.  A frame is placed
relative to a root by the product of the placements along its path to the root, if there is
one.
-/

abbrev FrameTree (Frame M : Type) := Frame → Option (Frame × M)

namespace FrameTree

variable {Frame M : Type}

/-- The frame has a new parent, or a new placement relative to the old one. -/
def place [DecidableEq Frame] (tree : FrameTree Frame M) (child parent : Frame) (m : M) :
    FrameTree Frame M := Function.update tree child (some (parent, m))

@[simp] theorem place_self [DecidableEq Frame] (tree : FrameTree Frame M) (child parent : Frame)
    (m : M) : tree.place child parent m child = some (parent, m) :=
  Function.update_self ..

theorem place_of_ne [DecidableEq Frame] {tree : FrameTree Frame M} {child parent f : Frame} {m : M}
    (h : f ≠ child) : tree.place child parent m f = tree f :=
  Function.update_of_ne h ..

variable [Monoid M]

inductive Located (tree : FrameTree Frame M) (root : Frame) : Frame → M → Prop
  | root : Located tree root root 1
  | child {f parent : Frame} {t m : M} (hne : f ≠ root) (hedge : tree f = some (parent, m))
      (hparent : Located tree root parent t) : Located tree root f (t * m)

variable {tree : FrameTree Frame M} {root f parent : Frame} {m x y : M}

theorem located_self_iff : Located tree root root x ↔ x = 1 := by
  constructor
  · intro h
    cases h with
    | root => rfl
    | child hne _ _ => exact absurd rfl hne
  · rintro rfl
    exact .root

/-- The first edge of a path. -/
theorem located_iff (hne : f ≠ root) : Located tree root f x ↔
    ∃ parent m t, tree f = some (parent, m) ∧ Located tree root parent t ∧ x = t * m := by
  constructor
  · intro h
    cases h with
    | root => exact absurd rfl hne
    | child _ hedge hparent => exact ⟨_, _, _, hedge, hparent, rfl⟩
  · rintro ⟨parent, m, t, hedge, hparent, rfl⟩
    exact .child hne hedge hparent

theorem located_iff_of_edge (hne : f ≠ root) (hedge : tree f = some (parent, m)) :
    Located tree root f x ↔ ∃ t, Located tree root parent t ∧ x = t * m := by
  rw [located_iff hne]
  constructor
  · rintro ⟨parent', m', t, hedge', hparent, hx⟩
    rw [hedge, Option.some.injEq, Prod.mk.injEq] at hedge'
    obtain ⟨rfl, rfl⟩ := hedge'
    exact ⟨t, hparent, hx⟩
  · rintro ⟨t, hparent, hx⟩
    exact ⟨parent, m, t, hedge, hparent, hx⟩

theorem located_iff_of_child (hne : f ≠ root) (hedge : tree f = some (root, m)) :
    Located tree root f x ↔ x = m := by
  rw [located_iff_of_edge hne hedge]
  simp only [located_self_iff, exists_eq_left, one_mul]

/-- A frame without a parent is no other frame's descendant. -/
theorem not_located_of_no_parent (hne : f ≠ root) (hnone : tree f = none) :
    ¬Located tree root f x := by
  rw [located_iff hne]
  rintro ⟨_, _, _, hedge, -⟩
  exact Option.some_ne_none _ (hedge.symm.trans hnone)

end FrameTree

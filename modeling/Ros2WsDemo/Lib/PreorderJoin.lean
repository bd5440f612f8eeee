import Mathlib.Data.List.Basic
import Mathlib.Order.Antisymmetrization

/-!
# Joins in a preorder

An operation that gives a least upper bound, where two bounds may lie below each other
without being equal.  The laws of a semilattice then hold up to that.
-/

namespace PreorderJoin

variable {α : Type*} [Preorder α]

/-- `join a b` is below exactly what is above both. -/
def IsJoin (join : α → α → α) : Prop := ∀ a b c, join a b ≤ c ↔ a ≤ c ∧ b ≤ c

/-- Two elements below the same elements lie below each other. -/
theorem antisymmRel_of_forall_le_iff {a b : α} (h : ∀ c, a ≤ c ↔ b ≤ c) :
    AntisymmRel (· ≤ ·) a b :=
  ⟨(h b).mpr le_rfl, (h a).mp le_rfl⟩

variable {join : α → α → α} (hjoin : IsJoin join)

include hjoin

theorem IsJoin.left_le (a b : α) : a ≤ join a b := ((hjoin a b _).mp le_rfl).1

theorem IsJoin.right_le (a b : α) : b ≤ join a b := ((hjoin a b _).mp le_rfl).2

theorem IsJoin.comm (a b : α) : AntisymmRel (· ≤ ·) (join a b) (join b a) := by
  refine antisymmRel_of_forall_le_iff fun c => ?_
  rw [hjoin a b, hjoin b a, and_comm]

theorem IsJoin.assoc (a b c : α) :
    AntisymmRel (· ≤ ·) (join (join a b) c) (join a (join b c)) := by
  refine antisymmRel_of_forall_le_iff fun d => ?_
  rw [hjoin (join a b), hjoin a b, hjoin a (join b c), hjoin b c, and_assoc]

theorem IsJoin.of_le {a b : α} (h : a ≤ b) : AntisymmRel (· ≤ ·) (join a b) b := by
  refine antisymmRel_of_forall_le_iff fun c => ?_
  rw [hjoin a b]
  exact and_iff_right_of_imp h.trans

theorem IsJoin.of_ge {a b : α} (h : b ≤ a) : AntisymmRel (· ≤ ·) (join a b) a :=
  (hjoin.comm a b).trans (hjoin.of_le h)

/-- Joining one after the other gives a join of all. -/
theorem IsJoin.foldl_le_iff (a : α) (bs : List α) (c : α) :
    bs.foldl join a ≤ c ↔ a ≤ c ∧ ∀ b ∈ bs, b ≤ c := by
  induction bs generalizing a with
  | nil => simp
  | cons b bs ih =>
      rw [List.foldl_cons, ih, hjoin a b, List.forall_mem_cons, and_assoc]

end PreorderJoin

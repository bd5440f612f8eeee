import Mathlib.Data.List.Forall2
import Mathlib.Data.List.Infix

/-!
# A mailbox for one message

A new message takes the place of the one that is there.  Besides the slot the mailbox
keeps all messages and the positions of those that were taken.
-/

structure Mailbox (α : Type) where
  slot : Option α
  received : List α
  taken : List ℕ

namespace Mailbox

variable {α : Type}

def empty : Mailbox α := ⟨none, [], []⟩

def put (m : Mailbox α) (a : α) : Mailbox α :=
  { m with slot := some a, received := m.received ++ [a] }

def take (m : Mailbox α) : Mailbox α :=
  match m.slot with
  | none => m
  | some _ => { m with slot := none, taken := m.taken ++ [m.received.length - 1] }

/-- The message in the slot is the latest, and it was not taken.  There is none only
if the latest was taken. -/
structure Valid (m : Mailbox α) : Prop where
  increasing : m.taken.Pairwise (· < ·)
  bounded : ∀ i ∈ m.taken, i < m.received.length
  full : ∀ a, m.slot = some a →
    m.received.getLast? = some a ∧ ∀ i ∈ m.taken, i + 1 < m.received.length
  empty : m.slot = none → m.received ≠ [] → m.taken.getLast? = some (m.received.length - 1)

theorem valid_empty : (empty : Mailbox α).Valid where
  increasing := .nil
  bounded := by simp [Mailbox.empty]
  full := by simp [Mailbox.empty]
  empty := by simp [Mailbox.empty]

theorem Valid.put {m : Mailbox α} (h : m.Valid) (a : α) : (m.put a).Valid where
  increasing := h.increasing
  bounded i hi := by
    have := h.bounded i hi
    simp only [Mailbox.put, List.length_append, List.length_singleton]
    omega
  full b hb := by
    have hab : a = b := Option.some.inj hb
    subst hab
    refine ⟨List.getLast?_concat, fun i hi => ?_⟩
    have := h.bounded i hi
    simp only [Mailbox.put, List.length_append, List.length_singleton]
    omega
  empty hnone := by cases hnone

theorem Valid.take {m : Mailbox α} (h : m.Valid) : m.take.Valid := by
  unfold Mailbox.take
  cases hslot : m.slot with
  | none => exact h
  | some a =>
      obtain ⟨hlast, hbelow⟩ := h.full a hslot
      have hpos : 0 < m.received.length :=
        List.length_pos_of_mem (List.mem_of_getLast? hlast)
      refine ⟨?_, ?_, ?_, fun _ _ => List.getLast?_concat⟩
      · refine List.pairwise_append.mpr ⟨h.increasing, List.pairwise_singleton _ _, ?_⟩
        intro i hi j hj
        have := hbelow i hi
        rw [List.mem_singleton.mp hj]
        omega
      · intro i hi
        rcases List.mem_append.mp hi with hi | hi
        · exact h.bounded i hi
        · rw [List.mem_singleton.mp hi]
          dsimp only
          omega
      · exact fun b hb => by cases hb

/-- What is taken at increasing positions is a sublist. -/
theorem sublist_of_increasing {ps : List ℕ} {as l : List α}
    (h : List.Forall₂ (fun i a => l[i]? = some a) ps as) (hps : ps.Pairwise (· < ·)) :
    as.Sublist l := by
  suffices hdrop : ∀ k, (∀ i ∈ ps, k ≤ i) → as.Sublist (l.drop k) from
    hdrop 0 fun i _ => Nat.zero_le i
  induction h with
  | nil => exact fun k _ => List.nil_sublist _
  | @cons i a ps as hget _ ih =>
      intro k hk
      obtain ⟨hbefore, hps⟩ := List.pairwise_cons.mp hps
      obtain ⟨hi, rfl⟩ := List.getElem?_eq_some_iff.mp hget
      have hrest := ih hps (i + 1) hbefore
      have hhead : (l[i] :: as).Sublist (l.drop i) := by
        rw [List.drop_eq_getElem_cons hi]
        exact hrest.cons_cons _
      exact hhead.trans (List.drop_sublist_drop_left l (hk i (List.mem_cons_self ..)))

end Mailbox

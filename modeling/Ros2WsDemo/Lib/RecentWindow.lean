import Mathlib.Data.List.Basic
import Mathlib.Data.List.Nodup

/-!
# The most recent elements of a history

A queue with a maximal length drops its oldest element when it is full, so it holds the
last elements of everything that was ever appended.  If only elements are appended that
the queue does not hold, equal elements of the history are far apart.
-/

namespace RecentWindow

variable {α : Type} {n : ℕ}

/-- The last `n` elements. -/
def last (n : ℕ) (l : List α) : List α := l.drop (l.length - n)

/-- Append to a queue of at most `n` elements. -/
def push (n : ℕ) (window : List α) (a : α) : List α := last n (window ++ [a])

theorem last_nil : last n ([] : List α) = [] := List.drop_nil

theorem getElem?_last (l : List α) (i : ℕ) : (last n l)[i]? = l[l.length - n + i]? := by
  rw [last, List.getElem?_drop]

/-- The queue holds the last elements that were appended. -/
theorem push_last (l : List α) (a : α) : push n (last n l) a = last n (l ++ [a]) := by
  have happend : last n l ++ [a] = (l ++ [a]).drop (l.length - n) := by
    rw [last, List.drop_append_of_le_length (Nat.sub_le ..)]
  rw [push, last, happend, List.drop_drop, last]
  congr 1
  simp only [List.length_drop, List.length_append, List.length_singleton]
  omega

theorem mem_last_iff {l : List α} {a : α} :
    a ∈ last n l ↔ ∃ i, i < l.length ∧ l.length ≤ i + n ∧ l[i]? = some a := by
  rw [List.mem_iff_getElem?]
  constructor
  · rintro ⟨i, hi⟩
    rw [getElem?_last] at hi
    have hlt := (List.getElem?_eq_some_iff.mp hi).1
    exact ⟨l.length - n + i, hlt, by omega, hi⟩
  · rintro ⟨i, hlt, hrecent, hi⟩
    refine ⟨i - (l.length - n), ?_⟩
    rw [getElem?_last, ← hi]
    congr 1
    omega

/-- The element is among the last `n` exactly if fewer than `n` came after it. -/
theorem mem_last_append_cons {before after : List α} {a : α} (h : a ∉ after) :
    a ∈ last n (before ++ a :: after) ↔ after.length < n := by
  have hlength : (before ++ a :: after).length = before.length + 1 + after.length := by
    simp only [List.length_append, List.length_cons]
    omega
  rw [mem_last_iff, hlength]
  constructor
  · rintro ⟨i, hlt, hrecent, hi⟩
    by_contra hfar
    refine h ?_
    rw [List.getElem?_append_right (by omega), show i - before.length =
      i - before.length - 1 + 1 by omega, List.getElem?_cons_succ] at hi
    exact List.mem_of_getElem? hi
  · intro hlt
    exact ⟨before.length, by omega, by omega, by simp⟩

/-- Equal elements are more than `n` positions apart. -/
def Spaced (n : ℕ) (l : List α) : Prop :=
  ∀ i j, i < j → j < l.length → j ≤ i + n → l[i]? ≠ l[j]?

theorem spaced_nil : Spaced n ([] : List α) := fun _ _ _ hj => absurd hj (Nat.not_lt_zero _)

/-- Appending what the queue does not hold keeps equal elements apart. -/
theorem Spaced.concat {l : List α} {a : α} (h : Spaced n l) (ha : a ∉ last n l) :
    Spaced n (l ++ [a]) := by
  intro i j hij hj hnear
  rw [List.length_append, List.length_singleton] at hj
  have hi : (l ++ [a])[i]? = l[i]? := List.getElem?_append_left (by omega)
  rcases Nat.lt_succ_iff_lt_or_eq.mp hj with hlt | rfl
  · rw [hi, List.getElem?_append_left hlt]
    exact h i j hij hlt hnear
  · rw [hi, List.getElem?_concat_length]
    intro heq
    exact ha (mem_last_iff.mpr ⟨i, hij, hnear, heq⟩)

/-- Any `n + 1` consecutive elements are distinct. -/
theorem Spaced.nodup {l : List α} (h : Spaced n l) (k : ℕ) :
    ((l.drop k).take (n + 1)).Nodup := by
  rw [List.nodup_iff_getElem?_ne_getElem?]
  intro i j hij hj
  rw [List.length_take, List.length_drop] at hj
  rw [List.getElem?_take_of_lt (by omega), List.getElem?_take_of_lt (by omega),
    List.getElem?_drop, List.getElem?_drop]
  exact h (k + i) (k + j) (by omega) (by omega) (by omega)

end RecentWindow

import Mathlib.Data.List.Nodup
import Mathlib.Data.Matrix.Basic
import Ros2WsDemo.Lib.Python

/-!
# Arrays of `numpy`

Two-dimensional arrays with their shape, and the flat arrays they turn into.  Everything is
computed from the list of indices in row-major order: what is done to whole flat arrays is
done index by index.
-/

namespace Numpy

variable {α β γ : Type} {height width : ℕ}

/-- `A.flatten()` -/
def flatten (A : Matrix (Fin height) (Fin width) α) : List α :=
  (List.finRange height).flatMap fun i => (List.finRange width).map fun j => A i j

/-- `np.meshgrid(xs, ys)` -/
def meshgrid (xs : Fin width → α) (ys : Fin height → α) :
    Matrix (Fin height) (Fin width) α × Matrix (Fin height) (Fin width) α :=
  (Matrix.of fun _ j => xs j, Matrix.of fun i _ => ys i)

/-- `xs[mask]` -/
def select (xs : List α) (mask : List Bool) : List α :=
  ((xs.zip mask).filter Prod.snd).map Prod.fst

/-- The element that an integer stands for, counted from the end if it is negative. -/
def index (n : ℕ) (k : ℤ) : Except Python.Exn (Fin n) :=
  if h : 0 ≤ k ∧ k < n then .ok ⟨k.toNat, by omega⟩
  else if h : -n ≤ k ∧ k < 0 then .ok ⟨(k + n).toNat, by omega⟩
  else .error .indexError

/-- `A[i, j] = a` -/
def setItem (A : Matrix (Fin height) (Fin width) α) (i j : ℤ) (a : α) :
    Except Python.Exn (Matrix (Fin height) (Fin width) α) := do
  let i ← index height i
  let j ← index width j
  return Matrix.of fun i' j' => if i' = i ∧ j' = j then a else A i' j'

/-- `A @ B` -/
def matmul {n : ℕ} [Zero α] [Add α] [Mul α] (A : Matrix (Fin height) (Fin n) α)
    (B : Matrix (Fin n) (Fin width) α) : Matrix (Fin height) (Fin width) α :=
  Matrix.of fun i j => (List.finRange n).foldl (fun sum k => sum + A i k * B k j) 0

/-- `xs.max()` -/
def amax [Max α] : List α → Except Python.Exn α
  | [] => .error .valueError
  | x :: xs => .ok (xs.foldl max x)

/-! ## Row-major order -/

def indices (height width : ℕ) : List (Fin height × Fin width) :=
  (List.finRange height).flatMap fun i => (List.finRange width).map fun j => (i, j)

def RowMajor (p q : Fin height × Fin width) : Prop :=
  (p.1 : ℕ) < q.1 ∨ p.1 = q.1 ∧ (p.2 : ℕ) < q.2

theorem mem_indices (p : Fin height × Fin width) : p ∈ indices height width := by
  simp [indices]

theorem indices_rowMajor : (indices height width).Pairwise RowMajor := by
  unfold indices
  rw [List.pairwise_flatMap]
  constructor
  · intro i _
    rw [List.pairwise_map]
    exact (List.pairwise_lt_finRange width).imp fun h => Or.inr ⟨rfl, h⟩
  · refine (List.pairwise_lt_finRange height).imp fun h p hp q hq => ?_
    obtain ⟨j, -, rfl⟩ := List.mem_map.mp hp
    obtain ⟨j', -, rfl⟩ := List.mem_map.mp hq
    exact Or.inl h

theorem indices_nodup : (indices height width).Nodup := by
  refine indices_rowMajor.imp fun {p q} h => ?_
  rintro rfl
  rcases h with h | ⟨-, h⟩ <;> exact lt_irrefl _ h

theorem filter_indices (p : Fin height × Fin width) :
    (indices height width).filter (· == p) = [p] := by
  rw [List.filter_beq, List.count_eq_one_of_mem indices_nodup (mem_indices p),
    List.replicate_one]

theorem flatten_eq_map (A : Matrix (Fin height) (Fin width) α) :
    flatten A = (indices height width).map fun p => A p.1 p.2 := by
  simp [flatten, indices, List.map_flatMap, Function.comp_def]

/-! ## Flat arrays, index by index -/

@[simp] theorem select_map (l : List β) (f : β → α) (q : β → Bool) :
    select (l.map f) (l.map q) = (l.filter q).map f := by
  unfold select
  rw [List.zip_map', List.filter_map, List.map_map]
  rfl

@[simp] theorem zipWith_maps (op : α → β → γ) {δ : Type} (l : List δ) (f : δ → α) (g : δ → β) :
    List.zipWith op (l.map f) (l.map g) = l.map fun d => op (f d) (g d) := by
  rw [List.zipWith_map, List.zipWith_self]

/-! ## Indices and maxima -/

theorem index_of_nonneg {n : ℕ} {k : ℤ} (h : 0 ≤ k ∧ k < n) :
    index n k = .ok ⟨k.toNat, by omega⟩ := by
  unfold index
  rw [dif_pos h]

theorem setItem_eq {A : Matrix (Fin height) (Fin width) α} {k l : ℤ} {i : Fin height}
    {j : Fin width} (hi : index height k = .ok i) (hj : index width l = .ok j) (a : α) :
    setItem A k l a = .ok (Matrix.of fun i' j' => if i' = i ∧ j' = j then a else A i' j') := by
  unfold setItem
  rw [hi, hj]
  rfl

theorem amax_le_iff [LinearOrder α] {xs : List α} {m a : α} (h : amax xs = .ok m) :
    m ≤ a ↔ ∀ x ∈ xs, x ≤ a := by
  cases xs with
  | nil => cases h
  | cons x xs =>
      cases h
      induction xs generalizing x with
      | nil => simp
      | cons y xs ih =>
          rw [List.foldl_cons, ih]
          simp only [List.forall_mem_cons, max_le_iff, and_assoc]

end Numpy

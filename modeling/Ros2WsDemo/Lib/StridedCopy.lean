import Mathlib.Tactic.Linarith
import Mathlib.Tactic.Ring

/-!
# Copying a rectangle between two row-major buffers

A two-dimensional picture kept in a flat vector is read and written row by row,
each row one stride further on.  The two strides and the two offsets are
independent of each other, and every access is checked: a read or a write
outside the vectors gives `none`.  The result is stated per cell, so that a user
of the library never has to compute with offsets again.
-/

namespace StridedCopy

variable {α β : Type}

/-- The elements of a vector, addressed by an offset which may be out of range. -/
def ofList (l : List α) (i : ℤ) : Option α :=
  if 0 ≤ i then l[i.toNat]? else none

/-- Overwrite one element; `none` when the offset is out of range. -/
def write (dst : List β) (i : ℤ) (b : β) : Option (List β) :=
  if 0 ≤ i ∧ i < dst.length then some (dst.set i.toNat b) else none

/-- Copy `n` consecutive elements from `sOff` to `dOff`, converting each of them. -/
def copyRow (f : α → β) (src : ℤ → Option α) : ℕ → ℤ → ℤ → List β → Option (List β)
  | 0, _, _, dst => some dst
  | n + 1, sOff, dOff, dst => do
      let a ← src sOff
      let dst ← write dst dOff (f a)
      copyRow f src n (sOff + 1) (dOff + 1) dst

/-- Copy `rows` rows of `n` elements, moving both offsets on by their strides. -/
def copyRows (f : α → β) (src : ℤ → Option α) (n : ℕ) (sStride dStride : ℤ) :
    ℕ → ℤ → ℤ → List β → Option (List β)
  | 0, _, _, dst => some dst
  | rows + 1, sOff, dOff, dst => do
      let dst ← copyRow f src n sOff dOff dst
      copyRows f src n sStride dStride rows (sOff + sStride) (dOff + dStride) dst

theorem ofList_isSome {l : List α} {i : ℤ} (h0 : 0 ≤ i) (h1 : i < l.length) :
    (ofList l i).isSome := by
  have hlt : i.toNat < l.length := by omega
  simp [ofList, h0, hlt]

theorem ofList_replicate {n : ℕ} {b : α} {i : ℤ} (h0 : 0 ≤ i) (h1 : i < n) :
    ofList (List.replicate n b) i = some b := by
  have hlt : i.toNat < n := by omega
  simp [ofList, h0, hlt]

theorem ofList_ofNat (l : List α) (i : ℕ) : ofList l (i : ℤ) = l[i]? := by
  simp [ofList]

theorem write_spec {dst : List β} {i : ℤ} (b : β) (h0 : 0 ≤ i) (h1 : i < dst.length) :
    ∃ dst', write dst i b = some dst' ∧ dst'.length = dst.length ∧
      ∀ k, ofList dst' k = if k = i then some b else ofList dst k := by
  refine ⟨dst.set i.toNat b, by simp [write, h0, h1], by simp, ?_⟩
  intro k
  by_cases hk : k = i
  · subst hk
    have hlt : k.toNat < dst.length := by omega
    simp [ofList, h0, hlt]
  · by_cases hk0 : 0 ≤ k
    · have hne : i.toNat ≠ k.toNat := by omega
      simp [ofList, hk, hk0, hne]
    · simp [ofList, hk, hk0]

/-- A row inside both buffers is copied element by element; the rest of the
destination keeps its content. -/
theorem copyRow_spec (f : α → β) (src : ℤ → Option α) (n : ℕ) (sOff dOff : ℤ) (dst : List β)
    (h0 : 0 ≤ dOff) (h1 : dOff + n ≤ dst.length)
    (hsrc : ∀ i : ℤ, 0 ≤ i → i < n → (src (sOff + i)).isSome) :
    ∃ dst', copyRow f src n sOff dOff dst = some dst' ∧ dst'.length = dst.length ∧
      ∀ k, ofList dst' k =
        if dOff ≤ k ∧ k < dOff + n then (src (sOff + (k - dOff))).map f else ofList dst k := by
  induction n generalizing sOff dOff dst with
  | zero =>
      refine ⟨dst, rfl, rfl, ?_⟩
      intro k
      have hk : ¬(dOff ≤ k ∧ k < dOff + (0 : ℕ)) := by omega
      simp only [if_neg hk]
  | succ n ih =>
      obtain ⟨a, ha⟩ := Option.isSome_iff_exists.mp (by simpa using hsrc 0 le_rfl (by omega))
      obtain ⟨dst₁, hwrite, hlen₁, hread₁⟩ :=
        write_spec (f a) h0 (by push_cast at h1; omega : dOff < dst.length)
      obtain ⟨dst₂, hcopy, hlen₂, hread₂⟩ := ih (sOff + 1) (dOff + 1) dst₁ (by omega)
        (by rw [hlen₁]; push_cast at h1; omega)
        (by
          intro i hi0 hin
          have hs := hsrc (i + 1) (by omega) (by push_cast; omega)
          rwa [show sOff + 1 + i = sOff + (i + 1) by ring])
      refine ⟨dst₂, by simp [copyRow, ha, hwrite, hcopy], hlen₂.trans hlen₁, ?_⟩
      intro k
      rw [hread₂, hread₁]
      by_cases hk : k = dOff
      · subst hk
        simp [ha]
      · by_cases hin : dOff + 1 ≤ k ∧ k < dOff + 1 + n
        · have hin' : dOff ≤ k ∧ k < dOff + ((n + 1 : ℕ) : ℤ) := by push_cast; omega
          rw [if_pos hin, if_pos hin', show sOff + 1 + (k - (dOff + 1)) = sOff + (k - dOff) by ring]
        · have hin' : ¬(dOff ≤ k ∧ k < dOff + ((n + 1 : ℕ) : ℤ)) := by push_cast; omega
          rw [if_neg hin, if_neg hin', if_neg hk]

/-! ## The elements that are read -/

/-- The source offsets of `copyRows`, in the order in which they are read. -/
def reads (n : ℕ) (sStride : ℤ) : ℕ → ℤ → List ℤ
  | 0, _ => []
  | rows + 1, sOff =>
      (List.range n).map (fun i : ℕ => sOff + i) ++ reads n sStride rows (sOff + sStride)

theorem mem_reads {n : ℕ} {sStride : ℤ} {rows : ℕ} {sOff k : ℤ} :
    k ∈ reads n sStride rows sOff ↔ ∃ j i : ℕ, j < rows ∧ i < n ∧ k = sOff + j * sStride + i := by
  induction rows generalizing sOff with
  | zero => exact ⟨fun h => (nomatch h), fun ⟨_, _, hj, _⟩ => absurd hj (Nat.not_lt_zero _)⟩
  | succ rows ih =>
      simp only [reads, List.mem_append, List.mem_map, List.mem_range, ih]
      constructor
      · rintro (⟨i, hi, rfl⟩ | ⟨j, i, hj, hi, rfl⟩)
        · exact ⟨0, i, Nat.succ_pos _, hi, by simp⟩
        · refine ⟨j + 1, i, Nat.succ_lt_succ hj, hi, ?_⟩
          push_cast
          ring
      · rintro ⟨j, i, hj, hi, rfl⟩
        cases j with
        | zero => exact Or.inl ⟨i, hi, by simp⟩
        | succ j =>
            refine Or.inr ⟨j, i, Nat.lt_of_succ_lt_succ hj, hi, ?_⟩
            push_cast
            ring

/-- Rows without gaps between them cover an initial part of the source. -/
theorem mem_reads_packed {n m : ℕ} {k : ℤ} :
    k ∈ reads n n m 0 ↔ 0 ≤ k ∧ k < n * m := by
  rw [mem_reads]
  constructor
  · rintro ⟨j, i, hj, hi, rfl⟩
    have hrow : (j + 1) * n ≤ m * n := Nat.mul_le_mul_right n hj
    refine ⟨by positivity, ?_⟩
    have hcast : ((j : ℤ) + 1) * n ≤ m * n := by exact_mod_cast hrow
    linarith [hcast, (by exact_mod_cast hi : (i : ℤ) < n)]
  · rintro ⟨h0, h1⟩
    obtain ⟨p, rfl⟩ := Int.eq_ofNat_of_zero_le h0
    have hp : p < n * m := by exact_mod_cast h1
    have hn : 0 < n := Nat.pos_of_mul_pos_right (Nat.zero_lt_of_lt hp)
    refine ⟨p / n, p % n, Nat.div_lt_of_lt_mul hp, Nat.mod_lt p hn, ?_⟩
    have hsplit : (p : ℤ) = n * (p / n : ℕ) + (p % n : ℕ) := by
      exact_mod_cast (Nat.div_add_mod p n).symm
    linarith [hsplit]

theorem copyRow_reads {f : α → β} {src : ℤ → Option α} {n : ℕ} {sOff dOff : ℤ}
    {dst dst' : List β} (h : copyRow f src n sOff dOff dst = some dst') :
    (∀ i : ℕ, i < n → (src (sOff + i)).isSome) ∧ dst'.length = dst.length := by
  induction n generalizing sOff dOff dst with
  | zero =>
      cases h
      exact ⟨fun i hi => absurd hi (Nat.not_lt_zero i), rfl⟩
  | succ n ih =>
      simp only [copyRow, Option.bind_eq_bind, Option.bind_eq_some_iff] at h
      obtain ⟨a, ha, dst₁, hwrite, h⟩ := h
      have hlen : dst₁.length = dst.length := by
        unfold write at hwrite
        split_ifs at hwrite
        cases hwrite
        exact List.length_set
      obtain ⟨hread, hlen'⟩ := ih h
      refine ⟨fun i hi => ?_, hlen'.trans hlen⟩
      cases i with
      | zero => simp [ha]
      | succ i =>
          have hnext := hread i (Nat.lt_of_succ_lt_succ hi)
          rwa [show sOff + 1 + (i : ℤ) = sOff + ((i + 1 : ℕ) : ℤ) by push_cast; ring] at hnext

/-- A copy that succeeds found every element it reads. -/
theorem copyRows_reads {f : α → β} {src : ℤ → Option α} {n : ℕ} {sStride dStride : ℤ} {rows : ℕ}
    {sOff dOff : ℤ} {dst dst' : List β}
    (h : copyRows f src n sStride dStride rows sOff dOff dst = some dst') :
    (∀ k ∈ reads n sStride rows sOff, (src k).isSome) ∧ dst'.length = dst.length := by
  induction rows generalizing sOff dOff dst with
  | zero =>
      cases h
      exact ⟨fun k hk => (nomatch hk), rfl⟩
  | succ rows ih =>
      simp only [copyRows, Option.bind_eq_bind, Option.bind_eq_some_iff] at h
      obtain ⟨dst₁, hrow, h⟩ := h
      obtain ⟨hread, hlen⟩ := copyRow_reads hrow
      obtain ⟨hreads, hlen'⟩ := ih h
      refine ⟨fun k hk => ?_, hlen'.trans hlen⟩
      rcases List.mem_append.mp hk with hk | hk
      · obtain ⟨i, hi, rfl⟩ := List.mem_map.mp hk
        exact hread i (List.mem_range.mp hi)
      · exact hreads k hk

/-! ## Cells of a row-major buffer -/

theorem rowMajor_lt {W x ox n : ℤ} (y oy : ℤ) (hx0 : 0 ≤ x) (hxW : x < W) (hox : 0 ≤ ox)
    (hn : ox + n ≤ W) :
    (oy * W + ox ≤ y * W + x ∧ y * W + x < oy * W + ox + n) ↔
      y = oy ∧ ox ≤ x ∧ x < ox + n := by
  constructor
  · rintro ⟨hlo, hhi⟩
    have hy : y = oy := by
      rcases lt_trichotomy y oy with h | h | h
      · nlinarith
      · exact h
      · nlinarith
    subst hy
    exact ⟨rfl, by omega, by omega⟩
  · rintro ⟨rfl, hlo, hhi⟩
    exact ⟨by omega, by omega⟩

/-- Copying a rectangle that lies inside the destination picture: exactly the
cells of the rectangle change, each to the converted source element of its row
and column. -/
theorem copyRows_spec (f : α → β) (src : ℤ → Option α) (n : ℕ) (sStride W : ℤ) (rows : ℕ)
    (sOff ox oy : ℤ) (dst : List β) (hox : 0 ≤ ox) (hn : ox + n ≤ W) (hoy : 0 ≤ oy)
    (hlen : (oy + rows) * W ≤ dst.length)
    (hsrc : ∀ j i : ℤ, 0 ≤ j → j < rows → 0 ≤ i → i < n →
      (src (sOff + j * sStride + i)).isSome) :
    ∃ dst', copyRows f src n sStride W rows sOff (oy * W + ox) dst = some dst' ∧
      dst'.length = dst.length ∧
      ∀ x y : ℤ, 0 ≤ x → x < W → ofList dst' (y * W + x) =
        if (ox ≤ x ∧ x < ox + n) ∧ oy ≤ y ∧ y < oy + rows then
          (src (sOff + (y - oy) * sStride + (x - ox))).map f
        else ofList dst (y * W + x) := by
  induction rows generalizing sOff oy dst with
  | zero =>
      refine ⟨dst, rfl, rfl, ?_⟩
      intro x y _ _
      have hy : ¬((ox ≤ x ∧ x < ox + n) ∧ oy ≤ y ∧ y < oy + (0 : ℕ)) := by omega
      rw [if_neg hy]
  | succ rows ih =>
      have hW : 0 ≤ W := by omega
      have hrow : oy * W + ox + n ≤ dst.length := by
        push_cast at hlen
        nlinarith [mul_nonneg (Int.natCast_nonneg rows) hW]
      obtain ⟨dst₁, hcopy₁, hlen₁, hread₁⟩ :=
        copyRow_spec f src n sOff (oy * W + ox) dst (by positivity) hrow
          (by simpa using hsrc 0 · le_rfl (by push_cast; omega))
      obtain ⟨dst₂, hcopy₂, hlen₂, hread₂⟩ := ih (sOff + sStride) (oy + 1) dst₁ (by omega)
        (by
          rw [hlen₁]
          push_cast at hlen ⊢
          linarith [hlen])
        (by
          intro j i hj0 hj hi0 hi
          have hs := hsrc (j + 1) i (by omega) (by push_cast; omega) hi0 hi
          rwa [show sOff + sStride + j * sStride + i = sOff + (j + 1) * sStride + i by ring])
      refine ⟨dst₂, ?_, hlen₂.trans hlen₁, ?_⟩
      · rw [show (oy + 1) * W + ox = oy * W + ox + W by ring] at hcopy₂
        simp [copyRows, hcopy₁, hcopy₂]
      · intro x y hx0 hxW
        rw [hread₂ x y hx0 hxW, hread₁]
        have hfirst := rowMajor_lt y oy hx0 hxW hox hn
        by_cases hy : y = oy
        · subst hy
          have hlast : ¬((ox ≤ x ∧ x < ox + n) ∧ y + 1 ≤ y ∧ y < y + 1 + rows) := by omega
          rw [if_neg hlast]
          by_cases hx : ox ≤ x ∧ x < ox + n
          · rw [if_pos (hfirst.mpr ⟨rfl, hx⟩), if_pos ⟨hx, le_rfl, by push_cast; omega⟩]
            congr 2
            ring
          · rw [if_neg (fun h => hx (hfirst.mp h).2), if_neg (fun h => hx h.1)]
        · rw [if_neg (fun h => hy (hfirst.mp h).1)]
          by_cases hin : (ox ≤ x ∧ x < ox + n) ∧ oy + 1 ≤ y ∧ y < oy + 1 + rows
          · have hin' : (ox ≤ x ∧ x < ox + n) ∧ oy ≤ y ∧ y < oy + ((rows + 1 : ℕ) : ℤ) := by
              push_cast; omega
            rw [if_pos hin, if_pos hin']
            congr 2
            ring
          · have hin' : ¬((ox ≤ x ∧ x < ox + n) ∧ oy ≤ y ∧ y < oy + ((rows + 1 : ℕ) : ℤ)) := by
              push_cast; omega
            rw [if_neg hin, if_neg hin']

end StridedCopy

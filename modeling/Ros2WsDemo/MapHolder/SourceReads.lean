import Mathlib.Data.Rat.Floor
import Ros2WsDemo.Lib.Atomicity
import Ros2WsDemo.MapHolder.Machine

/-!
# What `setMapData` reads of a platform map

A map is accepted if it has as many bytes as the product of its dimensions, where both
numbers are `int`.  The row loop reads as many bytes as the product really says, so the
two differ from a product of `2 ^ 31` on.
-/

namespace Ros2WsDemo.ServerMapHolder

open Atomicity MachineInt StridedCopy

variable {F : Type} [FloatArith F]

/-- The indices at which the row loop reads the data of the map, if the call comes to it. -/
def sourceReads32 (alloc : ℕ → Bool) (m : MapData F) (h : ServerMapHolder F) : List ℤ :=
  match (beginSetMapDataOfMap32 alloc m).run h with
  | .ok (some block) _ =>
      let rectToUp := block.cellIdxRectToUp
      reads rectToUp.width.toNat rectToUp.width rectToUp.height.toNat 0
  | _ => []

/-- The block has the dimensions of the call. -/
theorem beginSetMapData32_block {alloc : ℕ → Bool} {x y resolution : F} {dimX dimY : ℤ}
    {srcDat : Option (ℤ → Option UInt8)} {h h' : ServerMapHolder F} {block : Option Block}
    (hrun : (beginSetMapData32 alloc x y resolution dimX dimY srcDat).run h = .ok block h') :
    block = none ∧ (dimX < 1 ∨ dimY < 1) ∨ ∃ b, block = some b ∧ 1 ≤ dimX ∧ 1 ≤ dimY ∧
      b.cellIdxRectToUp.width = dimX ∧ b.cellIdxRectToUp.height = dimY := by
  unfold beginSetMapData32 at hrun
  by_cases hdim : dimX < 1 ∨ dimY < 1
  · rw [if_pos hdim] at hrun
    cases hrun
    exact Or.inl ⟨rfl, hdim⟩
  · rw [if_neg hdim] at hrun
    cases srcDat with
    | none => cases hrun
    | some src =>
        obtain ⟨_, _, -, hrun⟩ := run_bind_ok hrun
        obtain ⟨_, _, -, hrun⟩ := run_bind_ok hrun
        obtain ⟨cellX, _, -, hrun⟩ := run_bind_ok hrun
        obtain ⟨cellY, _, -, hrun⟩ := run_bind_ok hrun
        obtain ⟨_, _, -, hrun⟩ := run_bind_ok hrun
        obtain ⟨_, _, -, hrun⟩ := run_bind_ok hrun
        obtain ⟨offset, _, -, hrun⟩ := run_bind_ok hrun
        cases hrun
        exact Or.inr ⟨_, rfl, by omega, by omega, rfl, rfl⟩

/-- An accepted map has at least as many bytes as the wrapped product. -/
theorem beginSetMapDataOfMap32_ok {alloc : ℕ → Bool} {m : MapData F} {h h' : ServerMapHolder F}
    {block : Option Block} (hrun : (beginSetMapDataOfMap32 alloc m).run h = .ok block h') :
    mul32 m.mapDimension.1 m.mapDimension.2 ≤ wrap m.mapData.length ∧
      (beginSetMapData32 alloc m.mapPosition.1 m.mapPosition.2 m.mapResolution.1
        m.mapDimension.1 m.mapDimension.2 (dataPointer m.mapData)).run h = .ok block h' := by
  unfold beginSetMapDataOfMap32 at hrun
  split_ifs at hrun with hequal hsize
  · cases hrun
  · cases hrun
  · exact ⟨not_lt.mp hsize, hrun⟩

/-- Of an accepted map the loop reads the first bytes, as many as the product says. -/
theorem mem_sourceReads32 {alloc : ℕ → Bool} {m : MapData F} {h h' : ServerMapHolder F}
    {block : Option Block} (haccept : (beginSetMapDataOfMap32 alloc m).run h = .ok block h')
    {i : ℤ} : i ∈ sourceReads32 alloc m h ↔
      (1 ≤ m.mapDimension.1 ∧ 1 ≤ m.mapDimension.2) ∧
        0 ≤ i ∧ i < m.mapDimension.1 * m.mapDimension.2 := by
  unfold sourceReads32
  rw [haccept]
  rcases beginSetMapData32_block (beginSetMapDataOfMap32_ok haccept).2 with
    ⟨rfl, hdim⟩ | ⟨b, rfl, hx, hy, hwidth, hheight⟩
  · exact ⟨fun h => (nomatch h), fun ⟨⟨hx, hy⟩, _⟩ => by omega⟩
  · have hw : (m.mapDimension.1.toNat : ℤ) = m.mapDimension.1 := Int.toNat_of_nonneg (by omega)
    have hh : (m.mapDimension.2.toNat : ℤ) = m.mapDimension.2 := Int.toNat_of_nonneg (by omega)
    have hpacked := mem_reads_packed (n := m.mapDimension.1.toNat)
      (m := m.mapDimension.2.toNat) (k := i)
    rw [hw, hh] at hpacked
    simp only [hwidth, hheight]
    rw [hpacked]
    exact ⟨fun h => ⟨⟨hx, hy⟩, h⟩, fun h => h.2⟩

/-- The reads of an accepted map stay in its data exactly if the product of the dimensions
is an `int`, or the data really has that many bytes. -/
theorem sourceReads_inBounds_iff (h : ServerMapHolder F) (alloc : ℕ → Bool) (m : MapData F)
    {block : Option Block} {h' : ServerMapHolder F}
    (haccept : (beginSetMapDataOfMap32 alloc m).run h = .ok block h') :
    (∀ i ∈ sourceReads32 alloc m h, i < m.mapData.length) ↔
      m.mapDimension.1 < 1 ∨ m.mapDimension.2 < 1 ∨
        m.mapDimension.1 * m.mapDimension.2 < 2 ^ 31 ∨
        m.mapDimension.1 * m.mapDimension.2 ≤ m.mapData.length := by
  by_cases hdim : 1 ≤ m.mapDimension.1 ∧ 1 ≤ m.mapDimension.2
  swap
  · refine iff_of_true (fun i hi => ?_) (by omega)
    exact absurd ((mem_sourceReads32 haccept).mp hi).1 hdim
  have hpos : 0 < m.mapDimension.1 * m.mapDimension.2 := Int.mul_pos hdim.1 hdim.2
  have hlength := (beginSetMapDataOfMap32_ok haccept).1
  constructor
  · intro hbounds
    -- the last byte of the last row
    have hlast := hbounds (m.mapDimension.1 * m.mapDimension.2 - 1)
      ((mem_sourceReads32 haccept).mpr ⟨hdim, by omega, by omega⟩)
    exact Or.inr (Or.inr (Or.inr (by omega)))
  · intro hcond i hi
    obtain ⟨-, -, hlt⟩ := (mem_sourceReads32 haccept).mp hi
    rcases hcond with hx | hy | hproduct | hdata
    · omega
    · omega
    · have hwrap : mul32 m.mapDimension.1 m.mapDimension.2 =
          m.mapDimension.1 * m.mapDimension.2 := wrap_of_lt hpos.le hproduct
      have hcast := wrap_le (Int.natCast_nonneg m.mapData.length)
      omega
    · omega

/-- A map of two cells. -/
def twoCells : MapData ℚ where
  mapPosition := (0, 0)
  mapDimension := (2, 1)
  mapResolution := (1 / 20, 1 / 20)
  mapData := [200, 1]

/-- Its second byte is read, and none behind it. -/
theorem sourceReads_inBounds_two : (1 : ℤ) ∈ sourceReads32 (fun _ => true) twoCells new ∧
    ∀ i ∈ sourceReads32 (fun _ => true) twoCells new, i < twoCells.mapData.length := by
  have haccept :
      (returned? ((beginSetMapDataOfMap32 (fun _ => true) twoCells).run new)).isSome := by
    decide +kernel
  obtain ⟨p, hp⟩ := Option.isSome_iff_exists.mp haccept
  have hrun := eq_ok_of_returned? hp
  exact ⟨(mem_sourceReads32 hrun).mpr (by decide),
    (sourceReads_inBounds_iff _ _ _ hrun).mpr (Or.inr (Or.inr (Or.inl (by decide))))⟩

/-- One byte for 16 × 2 ^ 28 cells. -/
def hugeMap : MapData ℚ where
  mapPosition := (0, 0)
  mapDimension := (16, 268435456)
  mapResolution := (1 / 20, 1 / 20)
  mapData := [0]

/-- The product is a multiple of `2 ^ 32`, so the map is accepted. -/
theorem sourceReads_outOfBounds : ¬ ∀ (m : MapData ℚ), Fits m.mapDimension.1 →
    Fits m.mapDimension.2 → ∀ alloc block h',
      (beginSetMapDataOfMap32 alloc m).run new = .ok block h' →
        ∀ i ∈ sourceReads32 alloc m new, i < m.mapData.length := by
  intro hclaim
  have haccept : (returned? ((beginSetMapDataOfMap32 (fun _ => true) hugeMap).run new)).isSome := by
    decide +kernel
  obtain ⟨p, hp⟩ := Option.isSome_iff_exists.mp haccept
  have hrun := eq_ok_of_returned? hp
  have hread : (1 : ℤ) ∈ sourceReads32 (fun _ => true) hugeMap new :=
    (mem_sourceReads32 hrun).mpr (by decide)
  have hlt := hclaim hugeMap (by decide) (by decide) _ _ _ hrun 1 hread
  have hlength : hugeMap.mapData.length = 1 := rfl
  rw [hlength] at hlt
  exact absurd hlt (by norm_num)

end Ros2WsDemo.ServerMapHolder

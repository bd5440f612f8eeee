import Ros2WsDemo.Lib.WhileLoop
import Ros2WsDemo.MapHolder.Machine
import Ros2WsDemo.MapUpdate.WholeSync

/-!
# A whole-map sync comes to its end

The loops of `syncWholeMap_` take as many cells at a time as the parameter and the
resolution allow.  What the loops do is said here without a bound on their turns: they are
solutions of their loop equations, of which there is only one when the side of a tile is
positive.
-/

namespace Ros2WsDemo.ServerExploreMapUpdateWorker

open Effect ServerMapHolder Chunks WhileLoop MachineInt

/-! ## The loops -/

section Loops

variable {F : Type} [FloatArith F] (iOnceMaxCellCntWH : ℤ) (knownCellIdxRect : RectangleI)

/-- One turn of the inner loop, and the rest of it. -/
def rowTurn (cellIdxXEnd cellIdxY reqSizeY cellIdxX : ℤ) (rest : Worker F Bool) :
    Worker F Bool := do
  let tmpRemX := cellIdxXEnd - cellIdxX
  let reqSizeX := min tmpRemX iOnceMaxCellCntWH
  let reqIdxRect := ⟨cellIdxX, cellIdxY, reqSizeX, reqSizeY⟩
  if !(← updateMapInCellIdxRect reqIdxRect) then
    return false
  rest

def nextIdx (cellIdxEnd cellIdx : ℤ) : ℤ := cellIdx + min (cellIdxEnd - cellIdx) iOnceMaxCellCntWH

/-- `row` does what the inner loop does. -/
def IsRowLoop (cellIdxXEnd cellIdxY reqSizeY : ℤ) (row : ℤ → Worker F Bool) : Prop :=
  IsWhile (· < cellIdxXEnd) (rowTurn iOnceMaxCellCntWH cellIdxXEnd cellIdxY reqSizeY)
    (nextIdx iOnceMaxCellCntWH cellIdxXEnd) (return true) row

/-- One turn of the outer loop, given the inner one. -/
def rowsTurn (row : ℤ → ℤ → ℤ → Worker F Bool) (cellIdxXBegin cellIdxYEnd cellIdxY : ℤ)
    (rest : Worker F Bool) : Worker F Bool := do
  let tmpRemY := cellIdxYEnd - cellIdxY
  let reqSizeY := min tmpRemY iOnceMaxCellCntWH
  if !(← row cellIdxY reqSizeY cellIdxXBegin) then
    return false
  rest

/-- `rows` does what both loops do for the known rectangle. -/
def IsRowsLoop (rows : ℤ → Worker F Bool) : Prop :=
  ∃ row : ℤ → ℤ → ℤ → Worker F Bool,
    (∀ cellIdxY reqSizeY, IsRowLoop iOnceMaxCellCntWH (knownCellIdxRect.x + knownCellIdxRect.width)
      cellIdxY reqSizeY (row cellIdxY reqSizeY)) ∧
    IsWhile (· < knownCellIdxRect.y + knownCellIdxRect.height)
      (rowsTurn iOnceMaxCellCntWH row knownCellIdxRect.x
        (knownCellIdxRect.y + knownCellIdxRect.height))
      (nextIdx iOnceMaxCellCntWH (knownCellIdxRect.y + knownCellIdxRect.height)) (return true) rows

variable {iOnceMaxCellCntWH knownCellIdxRect}

/-- A turn of either loop goes forward and not beyond the end. -/
theorem lt_nextIdx (hside : 0 < iOnceMaxCellCntWH) {cellIdxEnd cellIdx : ℤ}
    (h : cellIdx < cellIdxEnd) :
    cellIdx < nextIdx iOnceMaxCellCntWH cellIdxEnd cellIdx ∧
      nextIdx iOnceMaxCellCntWH cellIdxEnd cellIdx ≤ cellIdxEnd := by
  rw [nextIdx]
  omega

def idxLeft (cellIdxEnd cellIdx : ℤ) : ℕ := (cellIdxEnd - cellIdx).toNat

theorem idxLeft_nextIdx_lt (hside : 0 < iOnceMaxCellCntWH) (cellIdxEnd cellIdx : ℤ)
    (h : cellIdx < cellIdxEnd) :
    idxLeft cellIdxEnd (nextIdx iOnceMaxCellCntWH cellIdxEnd cellIdx) <
      idxLeft cellIdxEnd cellIdx := by
  have hnext := lt_nextIdx hside h
  simp only [idxLeft]
  omega

theorem fuelled_rowTurn (xEnd y sizeY : ℤ) (fuel : ℕ) (x : ℤ) :
    fuelled (· < xEnd) (rowTurn (F := F) iOnceMaxCellCntWH xEnd y sizeY)
        (nextIdx iOnceMaxCellCntWH xEnd) (return true) fuel x =
      syncRow iOnceMaxCellCntWH xEnd y sizeY fuel x := by
  induction fuel generalizing x with
  | zero => rfl
  | succ fuel ih =>
      rw [fuelled, ih]
      rfl

theorem fuelled_rowsTurn {row : ℤ → ℤ → ℤ → Worker F Bool} {xBegin xEnd yEnd : ℤ}
    (hrow : ∀ y sizeY, row y sizeY xBegin =
      syncRow iOnceMaxCellCntWH xEnd y sizeY (idxLeft xEnd xBegin) xBegin) (fuel : ℕ) (y : ℤ) :
    fuelled (· < yEnd) (rowsTurn iOnceMaxCellCntWH row xBegin yEnd)
        (nextIdx iOnceMaxCellCntWH yEnd) (return true) fuel y =
      syncRows iOnceMaxCellCntWH xBegin xEnd yEnd fuel y := by
  induction fuel generalizing y with
  | zero => rfl
  | succ fuel ih =>
      rw [fuelled, ih, syncRows, rowsTurn, hrow]
      rfl

/-- The loops with the bounds that `syncWholeMap` gives them. -/
def boundedRow (side : ℤ) (known : RectangleI) (y sizeY x : ℤ) : Worker F Bool :=
  syncRow side (known.x + known.width) y sizeY (idxLeft (known.x + known.width) x) x

def boundedRows (side : ℤ) (known : RectangleI) (y : ℤ) : Worker F Bool :=
  syncRows side known.x (known.x + known.width) (known.y + known.height)
    (idxLeft (known.y + known.height) y) y

theorem isRowsLoop_boundedRows (hside : 0 < iOnceMaxCellCntWH) :
    IsRowsLoop (F := F) iOnceMaxCellCntWH knownCellIdxRect
      (boundedRows iOnceMaxCellCntWH knownCellIdxRect) := by
  refine ⟨boundedRow iOnceMaxCellCntWH knownCellIdxRect, fun y sizeY => ?_, ?_⟩
  · have hrow : boundedRow iOnceMaxCellCntWH knownCellIdxRect y sizeY = fun x =>
        fuelled (· < knownCellIdxRect.x + knownCellIdxRect.width)
          (rowTurn (F := F) iOnceMaxCellCntWH (knownCellIdxRect.x + knownCellIdxRect.width) y sizeY)
          (nextIdx iOnceMaxCellCntWH (knownCellIdxRect.x + knownCellIdxRect.width)) (return true)
          (idxLeft (knownCellIdxRect.x + knownCellIdxRect.width) x) x :=
      funext fun x => (fuelled_rowTurn _ y sizeY _ x).symm
    rw [hrow]
    exact isWhile_fuelled (idxLeft_nextIdx_lt hside _)
  · have hrows : boundedRows iOnceMaxCellCntWH knownCellIdxRect = fun y =>
        fuelled (· < knownCellIdxRect.y + knownCellIdxRect.height)
          (rowsTurn (F := F) iOnceMaxCellCntWH (boundedRow iOnceMaxCellCntWH knownCellIdxRect)
            knownCellIdxRect.x (knownCellIdxRect.y + knownCellIdxRect.height))
          (nextIdx iOnceMaxCellCntWH (knownCellIdxRect.y + knownCellIdxRect.height)) (return true)
          (idxLeft (knownCellIdxRect.y + knownCellIdxRect.height) y) y :=
      funext fun y => (fuelled_rowsTurn (fun _ _ => rfl) _ y).symm
    rw [hrows]
    exact isWhile_fuelled (idxLeft_nextIdx_lt hside _)

theorem IsRowsLoop.eq_boundedRows (hside : 0 < iOnceMaxCellCntWH) {rows : ℤ → Worker F Bool}
    (h : IsRowsLoop iOnceMaxCellCntWH knownCellIdxRect rows) :
    rows = boundedRows iOnceMaxCellCntWH knownCellIdxRect := by
  obtain ⟨row, hrow, hrows⟩ := h
  have hinner : ∀ y sizeY, row y sizeY knownCellIdxRect.x =
      syncRow iOnceMaxCellCntWH (knownCellIdxRect.x + knownCellIdxRect.width) y sizeY
        (idxLeft (knownCellIdxRect.x + knownCellIdxRect.width) knownCellIdxRect.x)
        knownCellIdxRect.x := by
    intro y sizeY
    rw [← fuelled_rowTurn]
    exact ((hrow y sizeY).fuelled_eq (idxLeft_nextIdx_lt hside _) _ le_rfl).symm
  funext y
  rw [boundedRows, ← fuelled_rowsTurn hinner]
  exact (hrows.fuelled_eq (idxLeft_nextIdx_lt hside _) _ le_rfl).symm

end Loops

/-! ## Requests -/

section Requests

variable {F : Type} [FloatArith F]

def IsGetMap : Op F → Prop
  | .getMap _ => True
  | _ => False

/-- The answers that fix the parameter, the resolution and the known rectangle. -/
def Given (fVal fResolution : F) (known : RectangleI) : (o : Op F) → Ret F o → Prop
  | .getParameter _, (r : F) => r = fVal
  | .readExploreMapHolder, (r : ServerMapHolder F) => r.resolution = fResolution
  | .getKnownArea, (r : Except Exn (RectangleF F)) => ∀ area rect, r = .ok area →
      sfCalcRoundedCellIdxRect fResolution area = .ok rect → rect = known
  | _, _ => True

variable {answers : (o : Op F) → Ret F o → Prop}

omit [FloatArith F] in
theorem Idle.not_isGetMap {o : Op F} (h : Idle o) : ¬IsGetMap o := by
  cases o with
  | getMap area => exact h.elim
  | _ => exact id

omit [FloatArith F] in
theorem atMost_getMapByPltfm (area : RectangleF F) :
    (getMapByPltfm area).AtMost answers IsGetMap 1 := by
  refine Prog.AtMost.tryCatch ?_ fun e => ?_
  · exact Prog.AtMost.bind (n := 1) (m := 0) (Prog.atMost_perform _) fun r =>
      (Prog.uses_ofExcept r).atMost 0
  · cases e <;> trivial

omit [FloatArith F] in
theorem atMost_callHolder_bind {call : HolderCall F} {f : Unit → Worker F Bool} {n : ℕ}
    (hf : ∀ u, (f u).AtMost answers IsGetMap n) :
    (callHolder call >>= f).AtMost answers IsGetMap n := by
  refine ⟨fun hS => hS.elim, fun (r : Except Exn Unit) _ => ⟨fun hS => hS.elim, ?_⟩⟩
  intro _
  exact Prog.atMost_ofExcept_bind fun u _ => hf u

omit [FloatArith F] in
theorem atMost_getKnownArea_bind {f : RectangleF F → Worker F Bool} {n : ℕ}
    (hf : ∀ area, answers .getKnownArea (.ok area : Except Exn (RectangleF F)) →
      (f area).AtMost answers IsGetMap n) :
    (getKnownArea >>= f).AtMost answers IsGetMap n := by
  refine ⟨fun hS => hS.elim, fun (r : Except Exn (RectangleF F)) hr => ⟨fun hS => hS.elim, ?_⟩⟩
  intro _
  refine Prog.atMost_ofExcept_bind fun area harea => hf area ?_
  rwa [← harea]

theorem atMost_updateMapInCellIdxRect (reqIdxRect : RectangleI) :
    (updateMapInCellIdxRect reqIdxRect).AtMost answers IsGetMap 1 := by
  refine Prog.atMost_perform_bind id fun h _ => ?_
  refine Prog.AtMost.bind (n := 0) (m := 1) ((Prog.uses_ofExcept _).atMost 0) fun reqArea => ?_
  refine Prog.AtMost.bind (n := 1) (m := 0) (atMost_getMapByPltfm reqArea) fun hMap => ?_
  cases hMap with
  | none => exact Prog.atMost_pure _ 0
  | some hMap =>
      have hcheck := (idle_checkRecvResolution hMap.mapResolution.1).mono fun _ h => h.not_isGetMap
      refine Prog.AtMost.bind (n := 0) (m := 0) (hcheck.atMost 0) fun ok => ?_
      cases ok with
      | false => exact Prog.atMost_pure _ 0
      | true => exact atMost_callHolder_bind fun _ => Prog.atMost_pure _ 0

theorem atMost_fetchTiles (rs : List RectangleI) :
    (fetchTiles rs).AtMost answers IsGetMap rs.length := by
  induction rs with
  | nil => exact Prog.atMost_pure _ _
  | cons r rs ih =>
      rw [fetchTiles, List.length_cons, add_comm]
      refine (atMost_updateMapInCellIdxRect r).bind fun ok => ?_
      cases ok with
      | false => exact Prog.atMost_pure _ _
      | true => exact ih

omit [FloatArith F] in
theorem tiles_length_le (once : ℤ) (known : RectangleI) :
    (tiles once known).length ≤ known.width.toNat * known.height.toNat := by
  have hlength : (tiles once known).length =
      (chunks once (known.y + known.height) known.height.toNat known.y).length *
        (chunks once (known.x + known.width) known.width.toNat known.x).length := by
    simp [tiles, List.length_flatMap]
  rw [hlength, mul_comm]
  exact Nat.mul_le_mul (length_chunks_le _ _) (length_chunks_le _ _)

/-- The whole function asks for no more maps than the known rectangle has cells. -/
theorem atMost_syncWholeMap (fVal fResolution : F) (known : RectangleI) :
    (syncWholeMap : Worker F Bool).AtMost (Given fVal fResolution known) IsGetMap
      (known.width.toNat * known.height.toNat) := by
  refine Prog.atMost_perform_bind id fun (fVal' : F) _ => ?_
  refine Prog.atMost_perform_bind id fun (h : ServerMapHolder F) _ => ?_
  refine Prog.atMost_ofExcept_bind fun _ _ => ?_
  refine atMost_getKnownArea_bind fun knownArea harea => ?_
  refine Prog.atMost_perform_bind id fun (h' : ServerMapHolder F) hh' => ?_
  refine Prog.atMost_ofExcept_bind fun rect hrect => ?_
  have hresolution : h'.resolution = fResolution := hh'
  rw [hresolution] at hrect
  obtain rfl := harea knownArea rect rfl hrect
  split_ifs
  · exact Prog.atMost_pure _ _
  · refine atMost_callHolder_bind fun _ => atMost_callHolder_bind fun _ => ?_
    rw [syncRows_eq_fetchTiles]
    exact (atMost_fetchTiles _).mono (tiles_length_le _ _)

/-! ## The side of a tile -/

/-- `iOnceMaxCellCntWH`, with its conversion to `int` and its assertion. -/
def assertedOnceMaxCellCntWH (fVal fResolution : F) : Except Halt ℤ := do
  let iOnceMaxCellCntWH ← int32 (onceMaxCellCntWH fVal fResolution)
  boostAssert32 (0 < iOnceMaxCellCntWH) "0 < iOnceMaxCellCntWH"
  return iOnceMaxCellCntWH

theorem assertedOnceMaxCellCntWH_of_bounds {fVal fResolution : F}
    (hpos : 0 < onceMaxCellCntWH fVal fResolution)
    (hlt : onceMaxCellCntWH fVal fResolution < 2 ^ 31) :
    assertedOnceMaxCellCntWH fVal fResolution = .ok (onceMaxCellCntWH fVal fResolution) := by
  rw [assertedOnceMaxCellCntWH, int32, if_pos (fits_of_lt hpos.le hlt), except_ok_bind,
    boostAssert32, boostAssert_of hpos]
  rfl

theorem bounds_of_assertedOnceMaxCellCntWH {fVal fResolution : F} {side : ℤ}
    (h : assertedOnceMaxCellCntWH fVal fResolution = .ok side) :
    0 < onceMaxCellCntWH fVal fResolution ∧ onceMaxCellCntWH fVal fResolution < 2 ^ 31 := by
  rw [assertedOnceMaxCellCntWH, int32] at h
  by_cases hfits : Fits (onceMaxCellCntWH fVal fResolution)
  · rw [if_pos hfits, except_ok_bind, boostAssert32, boostAssert] at h
    by_cases hpos : 0 < onceMaxCellCntWH fVal fResolution
    · exact ⟨hpos, hfits.2⟩
    · rw [if_neg hpos] at h
      cases h
  · rw [if_neg hfits] at h
    cases h

/-- The side of a tile is positive, so that the assertion holds; each turn of a loop goes
forward; there is one thing the loops can do, and the function asks for finitely many maps. -/
def SyncEnds (fVal fResolution : F) (known : RectangleI) : Prop :=
  ∃ side, assertedOnceMaxCellCntWH fVal fResolution = .ok side ∧ 1 ≤ side ∧
    (∀ cellIdxEnd cellIdx, cellIdx < cellIdxEnd → cellIdx < nextIdx side cellIdxEnd cellIdx ∧
      nextIdx side cellIdxEnd cellIdx ≤ cellIdxEnd) ∧
    (∀ rows : ℤ → Worker F Bool, IsRowsLoop side known rows ↔ rows = boundedRows side known) ∧
    (syncWholeMap : Worker F Bool).AtMost (Given fVal fResolution known) IsGetMap
      (known.width.toNat * known.height.toNat)

theorem syncEnds_iff_side {fVal fResolution : F} {known : RectangleI} :
    SyncEnds fVal fResolution known ↔ 0 < onceMaxCellCntWH fVal fResolution ∧
      onceMaxCellCntWH fVal fResolution < 2 ^ 31 := by
  constructor
  · rintro ⟨side, hside, -⟩
    exact bounds_of_assertedOnceMaxCellCntWH hside
  · rintro ⟨hpos, hlt⟩
    refine ⟨_, assertedOnceMaxCellCntWH_of_bounds hpos hlt, hpos, fun _ _ h => lt_nextIdx hpos h,
      fun rows => ⟨fun h => h.eq_boundedRows hpos, ?_⟩,
      atMost_syncWholeMap fVal fResolution known⟩
    rintro rfl
    exact isRowsLoop_boundedRows hpos

end Requests

/-! ## Exact arithmetic -/

section Exact

variable {K : Type} [Field K] [LinearOrder K] [IsStrictOrderedRing K] [FloorRing K]

theorem exact_onceMaxCellCntWH {fVal fResolution : K} (hpos : 0 < fResolution) :
    onceMaxCellCntWH fVal fResolution = ⌊max 16 fVal / fResolution + 1 / 2⌋ := by
  have hsixteen : (FloatArith.ofInt 16 : K) = 16 := Int.cast_ofNat 16
  have hquotient : 0 ≤ max 16 fVal / fResolution :=
    div_nonneg (le_max_of_le_left (by norm_num)) hpos.le
  rw [onceMaxCellCntWH, hsixteen, exact_max]
  exact if_pos hquotient

/-- The sync ends as it should unless a cell is more than twice as large as the tiles, or so
small that the number of cells on the side of a tile is no `int`. -/
theorem syncEnds_iff {fVal fResolution : K}
    (hvalid : sfCheckResolutionValidity fResolution = .ok ()) (known : RectangleI) :
    SyncEnds fVal fResolution known ↔
      fResolution ≤ 2 * max 16 fVal ∧ max 16 fVal < (2 ^ 31 - 1 / 2) * fResolution := by
  have hpos : 0 < fResolution := by
    obtain ⟨-, hlt⟩ | ⟨what, herror⟩ := checkResolutionValidity_spec fResolution
    · exact exact_pos hlt
    · cases hvalid.symm.trans herror
  rw [syncEnds_iff_side, exact_onceMaxCellCntWH hpos]
  refine and_congr ?_ ?_
  · rw [Int.floor_pos, ← sub_le_iff_le_add, le_div_iff₀ hpos]
    constructor <;> intro h <;> linarith
  · rw [Int.floor_lt, ← lt_sub_iff_add_lt, div_lt_iff₀ hpos]
    norm_num

theorem syncEnds_iff_fine : SyncEnds (16 : ℚ) (1 / 20) ⟨0, 0, 400, 300⟩ ↔
    (1 / 20 : ℚ) ≤ 2 * max 16 16 ∧ max 16 16 < (2 ^ 31 - 1 / 2) * (1 / 20 : ℚ) :=
  syncEnds_iff (by decide +kernel) _

/-- Cells of 40 m are accepted, and more than twice as large as the tiles. -/
theorem coarse_never_ends : ¬∀ (fVal fResolution : ℚ) (known : RectangleI),
    sfCheckResolutionValidity fResolution = .ok () → SyncEnds fVal fResolution known := by
  intro hall
  have hvalid : sfCheckResolutionValidity (40 : ℚ) = .ok () := by decide +kernel
  have hends := hall 16 40 ⟨0, 0, 1, 1⟩ hvalid
  rw [syncEnds_iff_side, exact_onceMaxCellCntWH (by norm_num)] at hends
  norm_num at hends

end Exact

end Ros2WsDemo.ServerExploreMapUpdateWorker

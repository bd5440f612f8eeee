import Ros2WsDemo.Lib.Agreement
import Ros2WsDemo.Lib.ExceptState
import Ros2WsDemo.MapHolder.Growth
import Ros2WsDemo.MapHolder.Machine

/-!
# The machine follows the mathematical model

As long as the number of cells fits, a step on 32-bit integers returns what the
mathematical model returns, or stops; and it accesses no cell outside a buffer.
-/

namespace Ros2WsDemo

open Agreement ExceptState MachineInt ServerMapHolder StridedCopy

/-- The machine may stop on its own, but not with an access outside a buffer. -/
def Halt.access : Halt → Option Exn
  | .exn .outOfRange => some .outOfRange
  | _ => none

/-! ## Steps -/

section Steps

variable {α : Type}

theorem agrees_lift32 (x : Except Exn α) : Agrees Halt.access (lift32 x) x := by
  cases x with
  | ok a => exact agrees_ok a
  | error e =>
      refine ⟨fun _ h => (nomatch h), fun e₁ e' he he' => ?_⟩
      cases he
      cases e <;> cases he'
      rfl

theorem agrees_int32 (n : ℤ) : Agrees Halt.access (int32 n) (.ok n) := by
  unfold int32
  split_ifs
  · exact agrees_ok n
  · exact agrees_stop rfl _

theorem agrees_int32If (p : Prop) [Decidable p] (a b : ℤ) :
    Agrees Halt.access (int32If p a b) (.ok (if p then a else b)) := by
  unfold int32If
  split_ifs
  · exact agrees_int32 a
  · exact agrees_ok b

/-- An assertion that fails just stops the machine. -/
theorem agrees_boostAssert32 (p : Prop) [Decidable p] (expr : String) :
    Agrees Halt.access (boostAssert32 p expr) (.ok ()) := by
  unfold boostAssert32 boostAssert lift32
  split_ifs
  · exact agrees_ok ()
  · exact agrees_stop rfl _

theorem fits_of_int32 {n m : ℤ} (h : int32 n = .ok m) : m = n ∧ Fits n := by
  unfold int32 at h
  split_ifs at h with hfits
  cases h
  exact ⟨rfl, hfits⟩

theorem some_of_inBuffer32 {x : Option α} {a : α} (h : lift32 (inBuffer x) = .ok a) :
    x = some a := by
  cases x with
  | none => cases h
  | some b =>
      cases h
      rfl

/-- The offset of a row in a buffer whose number of cells fits. -/
theorem mul32_of_row {y width height : ℤ} (h0 : 0 ≤ y) (h1 : y < height) (hw : 0 ≤ width)
    (hcells : width * height < 2 ^ 31) : mul32 y width = y * width := by
  have hle : y * width ≤ height * width := mul_le_mul_of_nonneg_right h1.le hw
  exact wrap_of_lt (mul_nonneg h0 hw) (by linarith)

end Steps

namespace ServerMapHolder

/-! ## Rectangles -/

theorem agrees_containRect32 (r s : RectangleI) : Agrees Halt.access
    (sfDoesCellIdxRectContainRect32 r s) (.ok (decide (sfDoesCellIdxRectContainRect r s))) := by
  unfold sfDoesCellIdxRectContainRect32 sfDoesCellIdxRectContainRect
  by_cases hr : sfIsCellIdxRectEmpty r
  · rw [if_pos hr]
    simp only [hr, not_true, false_and, decide_false]
    exact agrees_ok _
  · rw [if_neg hr]
    simp only [hr, not_false_iff, true_and]
    refine (agrees_int32 _).bind_ok fun _ => (agrees_int32 _).bind_ok fun _ => ?_
    refine (agrees_int32If _ _ _).bind_ok fun _ => (agrees_int32If _ _ _).bind_ok fun _ => ?_
    exact agrees_ok _

theorem agrees_merge32 (A B : RectangleI) :
    Agrees Halt.access (sfMergeCellIdxRect32 A B) (.ok (mergedRect A B)) := by
  unfold sfMergeCellIdxRect32 mergedRect
  split_ifs
  · exact agrees_ok A
  · exact agrees_ok B
  · refine (agrees_int32 _).bind_ok fun _ => (agrees_int32 _).bind_ok fun _ => ?_
    refine (agrees_int32 _).bind_ok fun _ => (agrees_int32 _).bind_ok fun _ => ?_
    refine (agrees_boostAssert32 _ _).bind_ok fun _ => ?_
    refine (agrees_boostAssert32 _ _).bind_ok fun _ => ?_
    refine (agrees_int32 _).bind_ok fun _ => (agrees_int32 _).bind_ok fun _ => ?_
    exact agrees_ok _

theorem agrees_intersection32 (A B : RectangleI) : Agrees Halt.access
    (sfIntersectionOfCellIdxRect32 A B) (.ok (sfIntersectionOfCellIdxRect A B)) := by
  unfold sfIntersectionOfCellIdxRect32 sfIntersectionOfCellIdxRect
  by_cases hempty : sfIsCellIdxRectEmpty A ∨ sfIsCellIdxRectEmpty B
  · rw [if_pos hempty, if_pos hempty]
    exact agrees_ok _
  · rw [if_neg hempty, if_neg hempty]
    refine (agrees_int32 _).bind_ok fun _ => (agrees_int32 _).bind_ok fun _ => ?_
    refine (agrees_int32 _).bind_ok fun _ => (agrees_int32 _).bind_ok fun _ => ?_
    refine (agrees_int32If _ _ _).bind_ok fun _ => (agrees_int32If _ _ _).bind_ok fun _ => ?_
    exact agrees_ok _

theorem fits_alignedFloor32 {i m : ℤ} (h : sfGetAlignedFloorCellIdx32 i = .ok m) : Fits m := by
  unfold sfGetAlignedFloorCellIdx32 at h
  split_ifs at h
  · obtain ⟨absIdx, -, h⟩ := ok_bind h
    obtain ⟨rfl, hfits⟩ := fits_of_int32 h
    exact hfits
  · cases h
    exact fits_wrap _

theorem alignedFloor32_eq {i : ℤ} (hlo : -2 ^ 31 + 16 ≤ i) (hhi : i < 2 ^ 31) :
    sfGetAlignedFloorCellIdx32 i = .ok (i / 16 * 16) := by
  unfold sfGetAlignedFloorCellIdx32 mapDataSizeAlignment
  simp only [Nat.cast_ofNat]
  split_ifs with hneg
  · have habs : int32 (-i) = .ok (-i) := if_pos (fits_of_lt (by omega) (by omega))
    have h1 : wrapU (-i - 1) = -i - 1 := wrapU_of_lt (by omega) (by omega)
    have h2 : wrapU ((-i - 1) / 16 + 1) = (-i - 1) / 16 + 1 := wrapU_of_lt (by omega) (by omega)
    have h3 : wrapU (((-i - 1) / 16 + 1) * 16) = ((-i - 1) / 16 + 1) * 16 :=
      wrapU_of_lt (by omega) (by omega)
    have h4 : wrap (((-i - 1) / 16 + 1) * 16) = -(i / 16 * 16) := by
      rw [wrap_of_lt (by omega) (by omega)]
      omega
    have hfloor : int32 (i / 16 * 16) = .ok (i / 16 * 16) := if_pos ⟨by omega, by omega⟩
    simp only [habs, except_ok_bind, h1, h2, h3, h4, neg_neg, hfloor]
  · have h1 : wrapU i = i := wrapU_of_lt (by omega) (by omega)
    have h2 : wrapU (i / 16 * 16) = i / 16 * 16 := wrapU_of_lt (by omega) (by omega)
    rw [h1, h2, wrap_of_lt (by omega) (by omega)]

/-- The first index of `int` has no negation, and the next fifteen no aligned one below them
that is the negation of an `int`. -/
theorem alignedFloor32_overflow {i : ℤ} (hlo : -2 ^ 31 ≤ i) (hhi : i < -2 ^ 31 + 16) :
    sfGetAlignedFloorCellIdx32 i = .error .signedOverflow := by
  unfold sfGetAlignedFloorCellIdx32 mapDataSizeAlignment int32
  rw [if_pos (by omega)]
  by_cases habs : Fits (-i)
  · obtain ⟨-, hmax⟩ := id habs
    have h1 : wrapU (-i - 1) = -i - 1 := wrapU_of_lt (by omega) (by omega)
    have h2 : wrapU (wrapU ((-i - 1) / (16 : ℕ) + 1) * (16 : ℕ)) = 2 ^ 31 := by
      rw [wrapU_of_lt (n := (-i - 1) / (16 : ℕ) + 1) (by omega) (by omega),
        wrapU_of_lt (by omega) (by omega)]
      omega
    have h3 : ¬Fits (-wrap (2 ^ 31)) := by decide
    simp only [if_pos habs, except_ok_bind, h1, h2, if_neg h3]
  · rw [if_neg habs]
    rfl

theorem agrees_alignedFloor32 {i : ℤ} (hi : Fits i) :
    Agrees Halt.access (sfGetAlignedFloorCellIdx32 i) (.ok (i / 16 * 16)) := by
  obtain ⟨hlo, hhi⟩ := hi
  by_cases hfirst : -2 ^ 31 + 16 ≤ i
  · rw [alignedFloor32_eq hfirst hhi]
    exact agrees_ok _
  · rw [alignedFloor32_overflow hlo (not_le.mp hfirst)]
    exact agrees_stop rfl _

theorem alignedCeilSize32_eq {n : ℤ} (hn : 0 ≤ n) (hmax : n < 2 ^ 31) :
    sfGetAlignedCeilSize32 n = .ok (wrap (-(-n / 16) * 16)) := by
  have h1 : wrapU n = n := wrapU_of_lt hn (by omega)
  have h2 : wrapU (n + (16 - 1)) = n + 15 := by
    rw [show n + (16 - 1) = n + 15 by ring]
    exact wrapU_of_lt (by omega) (by omega)
  have h3 : wrapU ((n + 15) / 16 * 16) = -(-n / 16) * 16 := by
    rw [wrapU_of_lt (by omega) (by omega)]
    omega
  unfold sfGetAlignedCeilSize32 mapDataSizeAlignment
  rw [if_neg (not_lt.mpr hn)]
  simp only [Nat.cast_ofNat, h1, h2, h3]

/-- The aligned size of the last sizes of `int` is negative, and then the assertion that
follows it fails. -/
theorem agrees_alignedEnd32 {α : Type} {xMin reqEnd : ℤ} (hn : 0 ≤ reqEnd - xMin)
    (hfits : Fits (reqEnd - xMin)) (expr : String) {f : ℤ → ℤ → Except Halt α} {a : Except Exn α}
    (hf : ∀ m xEnd, m = -(-(reqEnd - xMin) / 16) * 16 → Agrees Halt.access (f m xEnd) a) :
    Agrees Halt.access (do
      let t ← sfGetAlignedCeilSize32 (reqEnd - xMin)
      let xEnd ← int32 (xMin + t)
      boostAssert32 (reqEnd ≤ xEnd) expr
      f t xEnd) a := by
  obtain ⟨-, hmax⟩ := hfits
  rw [alignedCeilSize32_eq hn hmax, except_ok_bind]
  by_cases hsmall : -(-(reqEnd - xMin) / 16) * 16 < 2 ^ 31
  · rw [wrap_of_lt (by omega) hsmall]
    refine (agrees_int32 _).bind_ok fun _ => (agrees_boostAssert32 _ _).bind_ok fun _ => ?_
    exact hf _ _ rfl
  · have hlast : -(-(reqEnd - xMin) / 16) * 16 = 2 ^ 31 := by omega
    have hwrap : wrap (2 ^ 31) = -2 ^ 31 := by decide
    rw [hlast, hwrap]
    refine (agrees_int32 _).bind_ok fun _ => ?_
    unfold boostAssert32 boostAssert
    rw [if_neg (by omega)]
    exact agrees_stop rfl _

theorem agrees_adjusted32 {r : RectangleI} (hr : ¬sfIsCellIdxRectEmpty r) (hx : Fits r.x)
    (hy : Fits r.y) :
    Agrees Halt.access (sfCalcAdjustedCellIdxRect32 r) (.ok (alignedHull r)) := by
  obtain ⟨hw, hh⟩ := not_empty_iff.mp hr
  unfold sfCalcAdjustedCellIdxRect32
  rw [if_neg hr]
  refine (agrees_alignedFloor32 hx).bind_ok fun _ => (agrees_boostAssert32 _ _).bind_ok fun _ => ?_
  refine (agrees_alignedFloor32 hy).bind_ok fun _ => (agrees_boostAssert32 _ _).bind_ok fun _ => ?_
  refine (agrees_int32 _).bind_ok fun _ => (agrees_int32 _).bind_ok fun _ => ?_
  refine (agrees_int32 _).bind_ok fun hwidth => ?_
  refine agrees_alignedEnd32 (by omega) (fits_of_int32 hwidth).2 _ fun w _ hw => ?_
  refine (agrees_int32 _).bind_ok fun hheight => ?_
  refine agrees_alignedEnd32 (by omega) (fits_of_int32 hheight).2 _ fun h _ hh => ?_
  have hhull : (⟨r.x / 16 * 16, r.y / 16 * 16, w, h⟩ : RectangleI) = alignedHull r := by
    simp only [alignedHull, RectangleI.mk.injEq]
    exact ⟨trivial, trivial, by omega, by omega⟩
  rw [← hhull]
  exact agrees_ok _

theorem ensures_adjusted32 (r : RectangleI) :
    Ensures (sfCalcAdjustedCellIdxRect32 r) fun s => Fits s.x ∧ Fits s.y := by
  unfold sfCalcAdjustedCellIdxRect32
  split_ifs
  · exact ensures_ok (by decide)
  · refine Ensures.bind (fun _ => fits_alignedFloor32) fun xMin hx => ensures_then fun _ => ?_
    refine Ensures.bind (fun _ => fits_alignedFloor32) fun yMin hy => ensures_then fun _ => ?_
    refine ensures_then fun _ => ensures_then fun _ => ensures_then fun _ => ?_
    refine ensures_then fun _ => ensures_then fun _ => ensures_then fun _ => ?_
    refine ensures_then fun _ => ensures_then fun _ => ensures_then fun _ => ?_
    exact ensures_then fun _ => ensures_ok ⟨hx, hy⟩

/-! ## Growing -/

/-- The wrapped number of cells is the number of cells, or there is no such buffer. -/
def SizeFits (alloc : ℕ → Bool) (cells : ℤ) : Prop :=
  cells < 2 ^ 31 ∨ wrap cells < 0 ∨ alloc (wrap cells).toNat = false

theorem allocZero32_ok {alloc : ℕ → Bool} {cells : ℤ} {dat : List UInt8}
    (h : allocZero32 alloc (wrap cells) = .ok dat) :
    0 ≤ wrap cells ∧ alloc (wrap cells).toNat = true ∧
      dat = List.replicate (wrap cells).toNat 0 := by
  unfold allocZero32 allocZero lift32 at h
  split_ifs at h with hneg halloc
  · cases h
    exact ⟨not_lt.mp hneg, halloc, rfl⟩
  · cases h

theorem cells_lt_of_allocated {alloc : ℕ → Bool} {cells : ℤ} {dat : List UInt8}
    (hfits : SizeFits alloc cells) (h : allocZero32 alloc (wrap cells) = .ok dat) :
    cells < 2 ^ 31 := by
  obtain ⟨hnonneg, halloc, -⟩ := allocZero32_ok h
  rcases hfits with hlt | hneg | hrefused
  · exact hlt
  · omega
  · rw [halloc] at hrefused
    cases hrefused

theorem agrees_allocZero32 {alloc : ℕ → Bool} {cells : ℤ} (h0 : 0 ≤ cells)
    (hfits : SizeFits alloc cells) :
    Agrees Halt.access (allocZero32 alloc (wrap cells)) (allocZero alloc cells) := by
  by_cases hlt : cells < 2 ^ 31
  · rw [wrap_of_lt h0 hlt, allocZero32, if_neg (not_lt.mpr h0)]
    exact agrees_lift32 _
  · cases hrun : allocZero32 alloc (wrap cells) with
    | ok dat => exact absurd (cells_lt_of_allocated hfits hrun) hlt
    | error e =>
        unfold allocZero32 allocZero lift32 at hrun
        split_ifs at hrun
        · cases hrun
          exact agrees_stop rfl _
        · cases hrun
        · cases hrun
          exact agrees_stop rfl _

variable {F : Type} [FloatArith F]

/-- The invariant of the machine: all cells of the buffer have an `int`. -/
structure Inv32 (h : ServerMapHolder F) : Prop where
  inv : Inv h
  avail_fits : Fits h.availCellIdxRect.x ∧ Fits h.availCellIdxRect.y
  cells_lt : h.availCellIdxRect.width * h.availCellIdxRect.height < 2 ^ 31

theorem agrees_copyValidCells32 {h : ServerMapHolder F} (hI : Inv32 h)
    (hv : ¬sfIsCellIdxRectEmpty h.validCellIdxRect) {avail : RectangleI}
    (hwithin : Within h.validCellIdxRect avail) (hcells : avail.width * avail.height < 2 ^ 31)
    (dat : List UInt8) :
    Agrees Halt.access (copyValidCells32 h avail dat) (copyValidCells h avail dat) := by
  obtain ⟨hw, hh⟩ := not_empty_iff.mp hv
  obtain ⟨hx0, hx1, hy0, hy1⟩ := hwithin
  obtain ⟨hox0, hox1, hoy0, hoy1⟩ := hI.inv.valid_within.resolve_left hv
  have hsrc : mul32 (h.validCellIdxRect.y - h.availCellIdxRect.y) h.availCellIdxRect.width =
      (h.validCellIdxRect.y - h.availCellIdxRect.y) * h.availCellIdxRect.width :=
    mul32_of_row (by omega) (by omega : _ < h.availCellIdxRect.height) (by omega) hI.cells_lt
  have hdest : mul32 (h.validCellIdxRect.y - avail.y) avail.width =
      (h.validCellIdxRect.y - avail.y) * avail.width :=
    mul32_of_row (by omega) (by omega : _ < avail.height) (by omega) hcells
  unfold copyValidCells32 copyValidCells
  refine (agrees_int32 _).bind_ok fun _ => (agrees_lift32 _).bind fun _ _ => ?_
  refine (agrees_int32 _).bind_ok fun _ => (agrees_lift32 _).bind fun _ _ => ?_
  refine (agrees_int32 _).bind_ok fun _ => (agrees_lift32 _).bind fun _ _ => ?_
  refine (agrees_int32 _).bind_ok fun _ => (agrees_lift32 _).bind fun _ _ => ?_
  refine (agrees_int32 _).bind_ok fun _ => (agrees_int32 _).bind_ok fun _ => ?_
  rw [hsrc, hdest]
  refine (agrees_int32 _).bind_ok fun _ => (agrees_int32 _).bind_ok fun _ => ?_
  exact agrees_lift32 _

omit [FloatArith F] in
theorem ensures_copyValidCells32 (h : ServerMapHolder F) (avail : RectangleI)
    (dat : List UInt8) :
    Ensures (copyValidCells32 h avail dat) fun dat' => dat'.length = dat.length := by
  unfold copyValidCells32
  refine ensures_then fun _ => ensures_then fun _ => ensures_then fun _ => ensures_then fun _ => ?_
  refine ensures_then fun _ => ensures_then fun _ => ensures_then fun _ => ensures_then fun _ => ?_
  refine ensures_then fun _ => ensures_then fun _ => ensures_then fun _ => ensures_then fun _ => ?_
  intro dat' hcopy
  exact (copyRows_reads (some_of_inBuffer32 hcopy)).2

/-- The room after growing for `r`. -/
def newRoom (h : ServerMapHolder F) (r : RectangleI) : RectangleI :=
  alignedHull (mergedRect h.availCellIdxRect r)

/-- The number of cells of that room. -/
def newCells (h : ServerMapHolder F) (r : RectangleI) : ℤ :=
  (newRoom h r).width * (newRoom h r).height

theorem fits_merged {A B : RectangleI} (hA : Fits A.x ∧ Fits A.y) (hB : Fits B.x ∧ Fits B.y) :
    Fits (mergedRect A B).x ∧ Fits (mergedRect A B).y := by
  unfold mergedRect
  split_ifs
  · exact hA
  · exact hB
  · unfold Fits at *
    simp only
    omega

section Grow

variable {h : ServerMapHolder F} {alloc : ℕ → Bool} {r : RectangleI}

/-- Whatever the sizes are, the new buffer has the wrapped number of cells. -/
theorem ensures_growTo32 (hI : Inv32 h) (hr : ¬sfIsCellIdxRectEmpty r) (hx : Fits r.x)
    (hy : Fits r.y) :
    Ensures (growTo32 alloc h r) fun grown => grown.1 = newRoom h r ∧
      (Fits grown.1.x ∧ Fits grown.1.y) ∧ 0 ≤ wrap (newCells h r) ∧
      alloc (wrap (newCells h r)).toNat = true ∧
      grown.2.length = (wrap (newCells h r)).toNat := by
  have hmerged : ¬sfIsCellIdxRectEmpty (mergedRect h.availCellIdxRect r) := merge_not_empty hr
  obtain ⟨hmx, hmy⟩ := fits_merged hI.avail_fits ⟨hx, hy⟩
  unfold growTo32
  refine Ensures.bind (Q := fun A => A = mergedRect h.availCellIdxRect r) ?_ ?_
  · exact fun A hA => Except.ok.inj ((agrees_merge32 _ _).1 A hA).symm
  rintro A rfl
  refine Ensures.bind (Q := fun A => A = newRoom h r ∧ Fits A.x ∧ Fits A.y) ?_ ?_
  · intro A hA
    have hhull := Except.ok.inj ((agrees_adjusted32 hmerged hmx hmy).1 A hA)
    exact ⟨hhull.symm, ensures_adjusted32 _ A hA⟩
  rintro A ⟨rfl, hfits⟩
  refine Ensures.bind (fun _ => allocZero32_ok) fun dat hdat => ?_
  obtain ⟨hnonneg, halloc, rfl⟩ := hdat
  split_ifs
  · exact ensures_ok ⟨rfl, hfits, hnonneg, halloc, List.length_replicate⟩
  · refine Ensures.bind (ensures_copyValidCells32 h _ _) fun dat hlen => ensures_ok ?_
    exact ⟨rfl, hfits, hnonneg, halloc, hlen.trans List.length_replicate⟩

theorem agrees_growTo32 (hI : Inv32 h) (hr : ¬sfIsCellIdxRectEmpty r) (hx : Fits r.x)
    (hy : Fits r.y) (hfits : SizeFits alloc (newCells h r)) :
    Agrees Halt.access (growTo32 alloc h r) (growTo alloc h r) := by
  have hmerged : ¬sfIsCellIdxRectEmpty (mergedRect h.availCellIdxRect r) := merge_not_empty hr
  obtain ⟨hmx, hmy⟩ := fits_merged hI.avail_fits ⟨hx, hy⟩
  have hroom : Within (mergedRect h.availCellIdxRect r) (newRoom h r) := within_alignedHull _
  obtain ⟨hw, hh⟩ := not_empty_iff.mp (not_empty_of_within hmerged hroom)
  unfold growTo32 growTo
  rw [merge_eq, except_ok_bind, adjusted_eq_alignedHull hmerged, except_ok_bind]
  refine (agrees_merge32 _ _).bind_ok fun _ => ?_
  refine (agrees_adjusted32 hmerged hmx hmy).bind_ok fun _ => ?_
  refine (agrees_allocZero32 (mul_nonneg hw.le hh.le) hfits).bind fun dat hdat => ?_
  split_ifs with hv
  · exact agrees_ok _
  · have hvalid : Within h.validCellIdxRect (newRoom h r) :=
      ((hI.inv.valid_within.resolve_left hv).trans
        (within_merge_left (hI.inv.not_empty_avail hv))).trans hroom
    refine (agrees_copyValidCells32 hI hv hvalid (cells_lt_of_allocated hfits hdat) dat).bind ?_
    exact fun dat' _ => agrees_ok _

/-- The wrapped size of what `reserveByCellIdxRect` allocates is the size, or it does not
allocate. -/
def ReserveFits (alloc : ℕ → Bool) (h : ServerMapHolder F) (r : RectangleI) : Prop :=
  sfIsCellIdxRectEmpty r ∨ sfDoesCellIdxRectContainRect h.availCellIdxRect r ∨
    SizeFits alloc (newCells h r)

theorem agrees_reserveByCellIdxRect32 (hI : Inv32 h) (hx : Fits r.x) (hy : Fits r.y)
    (hfits : ReserveFits alloc h r) :
    AgreesFrom Halt.access (reserveByCellIdxRect32 alloc r) (reserveByCellIdxRect alloc r) h := by
  unfold reserveByCellIdxRect32 reserveByCellIdxRect
  by_cases hr : sfIsCellIdxRectEmpty r
  · rw [if_pos hr, if_pos hr]
    exact agreesFrom_of_eq rfl rfl
  rw [if_neg hr, if_neg hr]
  refine AgreesFrom.get ?_
  refine AgreesFrom.bind_ok (agrees_containRect32 _ _) fun _ => ?_
  by_cases hc : sfDoesCellIdxRectContainRect h.availCellIdxRect r
  · simp only [hc, decide_true, if_true]
    exact agreesFrom_of_eq rfl rfl
  · simp only [hc, decide_false, if_false, Bool.false_eq_true]
    refine ((agrees_growTo32 hI hr hx hy ((hfits.resolve_left hr).resolve_left hc)).ofExcept
      h).bind fun grown s hgrown => ?_
    have hs : s = h := Atomicity.readOnly_ofExcept _ h grown s hgrown
    subst hs
    rw [calcArea_eq hI.inv.resolution_valid]
    exact agreesFrom_of_eq rfl rfl

end Grow

/-! ## Reading -/

section Read

variable {h : ServerMapHolder F} {alloc : ℕ → Bool} {req : RectangleI}

/-- The wrapped size of the message is its size and its rows have an `int` offset, or it
is not allocated. -/
def FillFits (alloc : ℕ → Bool) (h : ServerMapHolder F) (req : RectangleI) : Prop :=
  let part := sfIntersectionOfCellIdxRect h.validCellIdxRect req
  alloc (wrapU (req.width * req.height)).toNat = false ∨ req.width * req.height < 2 ^ 32 ∧
    (sfIsCellIdxRectEmpty part ∨ cellOffset req part.x part.y < 2 ^ 31)

theorem resizeData32_eq (alloc : ℕ → Bool) (hw : 0 ≤ req.width) (hw' : req.width < 2 ^ 31)
    (hh : 0 ≤ req.height) (hh' : req.height < 2 ^ 31) : resizeData32 alloc req.width req.height =
      if alloc (wrapU (req.width * req.height)).toNat then
        .ok (List.replicate (wrapU (req.width * req.height)).toNat (-1))
      else .error (.exn .badAlloc) := by
  unfold resizeData32
  rw [wrapU_of_lt hw (by omega), wrapU_of_lt hh (by omega)]

theorem agrees_fillCells32 (hI : Inv32 h) {part : RectangleI} (hne : ¬sfIsCellIdxRectEmpty part)
    (havail : Within part h.availCellIdxRect) (hreq : Within part req)
    (hoffset : cellOffset req part.x part.y < 2 ^ 31) (data : List Int8) :
    Agrees Halt.access (fillCells32 h req part data) (fillCells h req part data) := by
  obtain ⟨hw, hh⟩ := not_empty_iff.mp hne
  obtain ⟨hax0, hax1, hay0, hay1⟩ := havail
  obtain ⟨hx0, hx1, hy0, hy1⟩ := hreq
  have hsrc : mul32 (part.y - h.availCellIdxRect.y) h.availCellIdxRect.width =
      (part.y - h.availCellIdxRect.y) * h.availCellIdxRect.width :=
    mul32_of_row (by omega) (by omega : _ < h.availCellIdxRect.height) (by omega) hI.cells_lt
  have hdest : mul32 (part.y - req.y) req.width = (part.y - req.y) * req.width := by
    unfold cellOffset at hoffset
    exact wrap_of_lt (mul_nonneg (by omega) (by omega)) (by omega)
  unfold fillCells32 fillCells
  refine (agrees_int32 _).bind_ok fun _ => (agrees_int32 _).bind_ok fun _ => ?_
  rw [hsrc]
  refine (agrees_int32 _).bind_ok fun _ => (agrees_int32 _).bind_ok fun _ => ?_
  refine (agrees_int32 _).bind_ok fun _ => ?_
  rw [hdest]
  exact (agrees_int32 _).bind_ok fun _ => agrees_lift32 _

theorem agrees_fillRosMapMsg32 (hI : Inv32 h) (hreq : ¬sfIsCellIdxRectEmpty req)
    (hw : req.width < 2 ^ 31) (hh : req.height < 2 ^ 31) (hfits : FillFits alloc h req) :
    Agrees Halt.access (fillRosMapMsg32 alloc h req) (fillRosMapMsg h req) := by
  obtain ⟨hw0, hh0⟩ := not_empty_iff.mp hreq
  have hresize := resizeData32_eq alloc hw0.le hw hh0.le hh
  unfold fillRosMapMsg32 fillRosMapMsg
  refine (agrees_lift32 _).bind fun area _ => (agrees_intersection32 _ _).bind_ok fun _ => ?_
  set part := sfIntersectionOfCellIdxRect h.validCellIdxRect req with hpart
  simp only [if_neg hreq, hresize]
  by_cases halloc : alloc (wrapU (req.width * req.height)).toNat = true
  swap
  · rw [if_neg halloc]
    exact agrees_stop rfl _
  obtain ⟨hcells, hrows⟩ := hfits.resolve_left (by rw [halloc]; exact Bool.noConfusion)
  have hsize : (wrapU (req.width * req.height)).toNat = req.width.toNat * req.height.toNat := by
    rw [wrapU_of_lt (mul_nonneg hw0.le hh0.le) hcells, Int.toNat_mul hw0.le hh0.le]
  rw [if_pos halloc, hsize, wrapU_of_lt hw0.le (by omega), wrapU_of_lt hh0.le (by omega),
    except_ok_bind]
  by_cases hne : sfIsCellIdxRectEmpty part
  · simp only [if_pos hne]
    exact agrees_ok _
  · simp only [if_neg hne]
    have hvalid := intersection_within_left hne
    have havail : Within part h.availCellIdxRect :=
      hvalid.trans (hI.inv.valid_within.resolve_left (not_empty_of_within hne hvalid))
    refine (agrees_fillCells32 hI hne havail (intersection_within_right hne)
      (hrows.resolve_left hne) _).bind fun _ _ => ?_
    exact agrees_ok _

omit [FloatArith F] in
theorem ensures_fillCells32 (h : ServerMapHolder F) (req part : RectangleI) (data : List Int8) :
    Ensures (fillCells32 h req part data) fun data' => data'.length = data.length := by
  unfold fillCells32
  refine ensures_then fun _ => ensures_then fun _ => ensures_then fun _ => ?_
  refine ensures_then fun _ => ensures_then fun _ => ensures_then fun _ => ?_
  intro data' hcopy
  exact (copyRows_reads (some_of_inBuffer32 hcopy)).2

/-- Whatever the sizes are, the message has the wrapped number of entries. -/
theorem ensures_fillRosMapMsg32 (h : ServerMapHolder F) (hreq : ¬sfIsCellIdxRectEmpty req)
    (hw : req.width < 2 ^ 31) (hh : req.height < 2 ^ 31) :
    Ensures (fillRosMapMsg32 alloc h req) fun r =>
      r.2.data.length = (wrapU (req.width * req.height)).toNat := by
  obtain ⟨hw0, hh0⟩ := not_empty_iff.mp hreq
  unfold fillRosMapMsg32
  refine ensures_then fun area => ensures_then fun part => ?_
  simp only [if_neg hreq, resizeData32_eq alloc hw0.le hw hh0.le hh]
  by_cases halloc : alloc (wrapU (req.width * req.height)).toNat = true
  · rw [if_pos halloc, except_ok_bind]
    split_ifs
    · exact ensures_ok List.length_replicate
    · refine Ensures.bind (ensures_fillCells32 h req part _) fun data hlen => ensures_ok ?_
      exact hlen.trans List.length_replicate
  · rw [if_neg halloc]
    exact fun _ h => nomatch h

end Read

end ServerMapHolder

end Ros2WsDemo

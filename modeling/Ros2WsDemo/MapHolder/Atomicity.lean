import Mathlib.Data.Rat.Floor
import Ros2WsDemo.Lib.Atomicity
import Ros2WsDemo.MapHolder.Machine

/-!
# Calls that throw

The fields of a holder are assigned only when nothing can be thrown any more: after the
first assignment of a call there are assertions, buffer accesses and sums left, all of
which end the run when they fail.
-/

namespace Ros2WsDemo

open Atomicity

/-- The error is an exception that the caller sees. -/
def Halt.IsException (e : Halt) : Prop := e.isFault = false

namespace ServerMapHolder

open StridedCopy

/-! ## Computations that do not throw -/

theorem throwsNot_int32 (n : ℤ) : ThrowsNot Halt.IsException (int32 n) := by
  intro e h
  unfold int32 at h
  split_ifs at h
  cases h
  exact Bool.noConfusion

theorem throwsNot_boostAssert32 (p : Prop) [Decidable p] (expr : String) :
    ThrowsNot Halt.IsException (boostAssert32 p expr) := by
  intro e h
  unfold boostAssert32 boostAssert lift32 at h
  split_ifs at h
  · cases h
  · cases h
    exact Bool.noConfusion

theorem throwsNot_inBuffer {α : Type} (a : Option α) :
    ThrowsNot Halt.IsException (lift32 (inBuffer a)) := by
  intro e h
  cases a with
  | some a => cases h
  | none =>
      cases h
      exact Bool.noConfusion

theorem throwsNot_merge32 (A B : RectangleI) :
    ThrowsNot Halt.IsException (sfMergeCellIdxRect32 A B) := by
  unfold sfMergeCellIdxRect32
  split_ifs
  · exact throwsNot_ok _
  · exact throwsNot_ok _
  · refine (throwsNot_int32 _).bind fun _ => (throwsNot_int32 _).bind fun _ =>
      (throwsNot_int32 _).bind fun _ => (throwsNot_int32 _).bind fun _ => ?_
    refine (throwsNot_boostAssert32 _ _).bind fun _ => ?_
    refine (throwsNot_boostAssert32 _ _).bind fun _ => ?_
    exact (throwsNot_int32 _).bind fun _ => (throwsNot_int32 _).bind fun _ => throwsNot_ok _

variable {F : Type} [FloatArith F]

theorem throwsNot_calcArea (resolution : F) (r : RectangleI) :
    ThrowsNot Halt.IsException (lift32 (sfCalcAreaByCellIdxRect resolution r)) := by
  intro e h
  unfold sfCalcAreaByCellIdxRect checkResolutionAssert boostAssert at h
  split_ifs at h
  · cases h
  · cases h
    exact Bool.noConfusion

/-! ## The operations -/

omit [FloatArith F] in
theorem run_liftHolder {α : Type} (m : HolderM F α) (h : ServerMapHolder F) :
    (liftHolder m).run h = match m.run h with
      | .ok a h' => .ok a h'
      | .error e h' => .error (.exn e) h' := rfl

omit [FloatArith F] in
theorem atomic_liftHolder {α : Type} {m : HolderM F α}
    (hm : Atomic (fun e => Halt.IsException (.exn e)) m) :
    Atomic Halt.IsException (liftHolder m) := by
  intro s e s' hrun he
  rw [run_liftHolder] at hrun
  cases hcall : m.run s with
  | ok a s₁ =>
      rw [hcall] at hrun
      cases hrun
  | error e₁ s₁ =>
      rw [hcall] at hrun
      cases hrun
      exact hm s e₁ s' hcall he

theorem atomic_reinit (resolution : F) :
    Atomic (fun e => Halt.IsException (.exn e)) (reinit resolution) :=
  (atomic_ofExcept _).bind (readOnly_ofExcept _) fun _ =>
    ((noThrow_modify _).bind fun _ => noThrow_modify _).atomic

theorem atomic_reserveByCellIdxRect32 (alloc : ℕ → Bool) (r : RectangleI) :
    Atomic Halt.IsException (reserveByCellIdxRect32 alloc r : HolderM32 F Unit) := by
  unfold reserveByCellIdxRect32
  split_ifs
  · exact (noThrow_pure _).atomic
  · refine noThrow_get.atomic.bind readOnly_get fun h => ?_
    refine (atomic_ofExcept _).bind (readOnly_ofExcept _) fun contained => ?_
    split_ifs
    · exact (noThrow_pure _).atomic
    · refine (atomic_ofExcept _).bind (readOnly_ofExcept _) fun grown => ?_
      refine ((noThrow_modify _).bind fun _ => ?_).atomic
      refine (noThrow_ofExcept (throwsNot_calcArea _ _)).bind fun _ => ?_
      exact (noThrow_modify _).bind fun _ => noThrow_modify _

theorem atomic_reserveByArea32 (alloc : ℕ → Bool) (a : RectangleF F) :
    Atomic Halt.IsException (reserveByArea32 alloc a : HolderM32 F Unit) := by
  unfold reserveByArea32
  split_ifs
  · exact (noThrow_pure _).atomic
  · refine noThrow_get.atomic.bind readOnly_get fun h => ?_
    exact (atomic_ofExcept _).bind (readOnly_ofExcept _) fun r =>
      atomic_reserveByCellIdxRect32 alloc r

theorem atomic_checkToExtendMap32 (alloc : ℕ → Bool) (r : RectangleI) :
    Atomic Halt.IsException (checkToExtendMap32 alloc r : HolderM32 F Unit) := by
  unfold checkToExtendMap32
  refine noThrow_get.atomic.bind readOnly_get fun h => ?_
  refine (atomic_ofExcept _).bind (readOnly_ofExcept _) fun _ => ?_
  refine (atomic_ofExcept _).bind (readOnly_ofExcept _) fun _ => ?_
  refine (atomic_ofExcept _).bind (readOnly_ofExcept _) fun _ => ?_
  split_ifs
  · exact (noThrow_pure _).atomic
  · refine (atomic_ofExcept _).bind (readOnly_ofExcept _) fun contained => ?_
    split_ifs
    · exact (noThrow_pure _).atomic
    · exact (atomic_ofExcept _).bind (readOnly_ofExcept _) fun t =>
        atomic_reserveByCellIdxRect32 alloc t

omit [FloatArith F] in
theorem throwsNot_destCellOffset32 (h : ServerMapHolder F) (r : RectangleI) :
    ThrowsNot Halt.IsException (destCellOffset32 h r) := by
  unfold destCellOffset32
  refine (throwsNot_int32 _).bind fun _ => (throwsNot_boostAssert32 _ _).bind fun _ => ?_
  refine (throwsNot_int32 _).bind fun _ => (throwsNot_boostAssert32 _ _).bind fun _ => ?_
  refine (throwsNot_int32 _).bind fun _ => (throwsNot_boostAssert32 _ _).bind fun _ => ?_
  refine (throwsNot_int32 _).bind fun _ => (throwsNot_boostAssert32 _ _).bind fun _ => ?_
  exact throwsNot_int32 _

/-- The buffer grows last among the steps that throw. -/
theorem atomic_beginSetMapData32 (alloc : ℕ → Bool) (x y resolution : F) (dimX dimY : ℤ)
    (srcDat : Option (ℤ → Option UInt8)) :
    Atomic Halt.IsException (beginSetMapData32 alloc x y resolution dimX dimY srcDat) := by
  unfold beginSetMapData32
  split_ifs
  · exact (noThrow_pure _).atomic
  · cases srcDat with
    | none => exact atomic_throw _
    | some src =>
        refine noThrow_get.atomic.bind readOnly_get fun h => ?_
        refine (atomic_ofExcept _).bind (readOnly_ofExcept _) fun _ => ?_
        refine (atomic_ofExcept _).bind (readOnly_ofExcept _) fun _ => ?_
        refine (atomic_ofExcept _).bind (readOnly_ofExcept _) fun _ => ?_
        refine (atomic_checkToExtendMap32 alloc _).bind_noThrow fun _ => ?_
        refine noThrow_get.bind fun h' => ?_
        exact (noThrow_ofExcept (throwsNot_destCellOffset32 _ _)).bind fun _ => noThrow_pure _

theorem noThrow_copyBlock32 (block : Option Block) :
    NoThrow Halt.IsException (copyBlock32 block : HolderM32 F Unit) := by
  cases block with
  | none => exact noThrow_pure _
  | some block =>
      refine noThrow_get.bind fun h => ?_
      refine (noThrow_ofExcept (throwsNot_inBuffer _)).bind fun _ => ?_
      refine (noThrow_modify _).bind fun _ => ?_
      refine (noThrow_ofExcept (throwsNot_merge32 _ _)).bind fun _ => ?_
      refine (noThrow_modify _).bind fun _ => ?_
      exact (noThrow_ofExcept (throwsNot_calcArea _ _)).bind fun _ => noThrow_modify _

theorem atomic_beginSetMapDataOfMap32 (alloc : ℕ → Bool) (m : MapData F) :
    Atomic Halt.IsException (beginSetMapDataOfMap32 alloc m) := by
  unfold beginSetMapDataOfMap32
  split_ifs
  · exact atomic_throw _
  · exact atomic_throw _
  · exact atomic_beginSetMapData32 alloc _ _ _ _ _ _

end ServerMapHolder

open ServerMapHolder

variable {F : Type} [FloatArith F]

theorem atomic_exec32 (alloc : ℕ → Bool) (call : HolderCall F) :
    Atomic Halt.IsException (call.exec32 alloc) := by
  cases call with
  | clear => exact atomic_liftHolder (noThrow_modify _).atomic
  | reinit resolution => exact atomic_liftHolder (atomic_reinit resolution)
  | setMoreCellCountToExtend n => exact atomic_liftHolder (noThrow_modify _).atomic
  | reserveByCellIdxRect r => exact atomic_reserveByCellIdxRect32 alloc r
  | reserveByArea a => exact atomic_reserveByArea32 alloc a
  | setMapData x y resolution dimX dimY srcDat =>
      exact (atomic_beginSetMapData32 alloc _ _ _ _ _ _).bind_noThrow noThrow_copyBlock32
  | setMapDataOfMap hMap =>
      cases hMap with
      | none => exact (noThrow_pure _).atomic
      | some m => exact (atomic_beginSetMapDataOfMap32 alloc m).bind_noThrow noThrow_copyBlock32

/-- A call that ends in an exception leaves every field as it was, and hence everything
that can be read later. -/
theorem holder_unchanged_of_exception (h : ServerMapHolder F) (alloc : ℕ → Bool)
    (call : HolderCall F) {e : Halt} {h' : ServerMapHolder F}
    (hrun : (call.exec32 alloc).run h = .error e h') (he : e.IsException) :
    h' = h ∧ ∀ alloc' req, fillRosMapMsg32 alloc' h' req = fillRosMapMsg32 alloc' h req := by
  have hsame := atomic_exec32 alloc call h e h' hrun he
  exact ⟨hsame, fun alloc' req => by rw [hsame]⟩

/-- Room for 16 × 16 cells, one of them written. -/
def oneCell : ServerMapHolder ℚ where
  moreCellCntToExtend := 32
  resolution := 1 / 20
  availCellIdxRect := ⟨0, 0, 16, 16⟩
  availMapArea := ⟨0, 0, 4 / 5, 4 / 5⟩
  validCellIdxRect := ⟨0, 0, 1, 1⟩
  validMapArea := ⟨0, 0, 1 / 20, 1 / 20⟩
  mapDat := 200 :: List.replicate 255 0

/-- A reservation that the allocator refuses. -/
theorem holder_unchanged_refused :
    ∃ h', (HolderCall.exec32 (fun _ => false) (.reserveByCellIdxRect ⟨16, 0, 16, 16⟩)).run oneCell =
        .error (.exn .badAlloc) h' ∧ h' = oneCell ∧
      ∀ alloc req, fillRosMapMsg32 alloc h' req = fillRosMapMsg32 alloc oneCell req := by
  obtain ⟨h', hrun⟩ : ∃ h', (HolderCall.exec32 (fun _ => false)
      (.reserveByCellIdxRect ⟨16, 0, 16, 16⟩)).run oneCell = .error (.exn .badAlloc) h' := ⟨_, rfl⟩
  exact ⟨h', hrun, holder_unchanged_of_exception oneCell _ _ hrun rfl⟩

end Ros2WsDemo

import Mathlib.Data.Rat.Floor
import Ros2WsDemo.MapHolder.Invariant

/-!
# Runs of a holder

One public call refines one step of the abstract map and keeps the
representation invariant, or throws and changes nothing.  By induction this
holds after every sequence of calls, which makes the abstract map the only thing
a reader of the published message can see.
-/

namespace Ros2WsDemo

open ServerMapHolder StridedCopy

variable {F : Type} [FloatArith F]

/-- The holder stands for the abstract map.  A cell that was never written and a
cell that holds 0 look the same in the buffer. -/
structure Refines (h : ServerMapHolder F) (m : CellMap F) : Prop where
  resolution_eq : h.resolution = m.resolution
  byteAt_eq : ∀ x y, byteAt h x y = (m.cells x y).getD 0

theorem refines_new : Refines (new : ServerMapHolder F) CellMap.init where
  resolution_eq := rfl
  byteAt_eq x y := byteAt_of_empty empty_default x y

namespace Refines

variable {h h' : ServerMapHolder F} {m : CellMap F}

theorem grownTo (hm : Refines h m) (hgrown : GrownTo h h') : Refines h' m where
  resolution_eq := hgrown.resolution_eq.trans hm.resolution_eq
  byteAt_eq x y := (hgrown.byteAt_eq x y).trans (hm.byteAt_eq x y)

theorem writtenTo (hm : Refines h m) {rect : RectangleI} {src : ℤ → Option UInt8}
    (hwritten : WrittenTo rect src h h') : Refines h' (m.writeBlock rect src) where
  resolution_eq := hwritten.resolution_eq.trans hm.resolution_eq
  byteAt_eq x y := by
    rw [hwritten.byteAt_eq]
    simp only [CellMap.writeBlock, cellOffset]
    split_ifs with hin
    · rfl
    · exact hm.byteAt_eq x y

end Refines

/-- What a call that returns has done. -/
structure Executed (call : HolderCall F) (h h' : ServerMapHolder F) : Prop where
  inv : Inv h'
  avail_within : call.isReset = false → ¬sfIsCellIdxRectEmpty h.availCellIdxRect →
    Within h.availCellIdxRect h'.availCellIdxRect
  refines : ∀ m, Refines h m → Refines h' (m.step call)

/-- Only `reinit` changes the resolution. -/
theorem Executed.resolution_eq {call : HolderCall F} {h h' : ServerMapHolder F}
    (hexec : Executed call h h') (hreset : call.isReset = false) :
    h'.resolution = h.resolution := by
  have hm := hexec.refines ⟨h.resolution, fun x y => some (byteAt h x y)⟩ ⟨rfl, fun _ _ => rfl⟩
  rw [hm.resolution_eq]
  cases call with
  | reinit resolution => cases hreset
  | setMapDataOfMap hMap => cases hMap <;> rfl
  | _ => rfl

theorem executed_clear {h : ServerMapHolder F} (hI : Inv h) :
    ∃ h', (clear : HolderM F Unit).run h = .ok () h' ∧ h'.resolution = h.resolution ∧
      Executed .clear h h' := by
  refine ⟨_, rfl, rfl, ⟨?_, nofun, ?_⟩⟩
  · exact ⟨hI.more_nonneg, hI.resolution_valid, ⟨le_rfl, le_rfl⟩, rfl, Or.inl empty_default,
      Or.inl empty_default, fun x y _ => byteAt_of_empty empty_default x y⟩
  · exact fun m hm => ⟨hm.resolution_eq, fun x y => byteAt_of_empty empty_default x y⟩

theorem executed_setMoreCellCountToExtend {h : ServerMapHolder F} (hI : Inv h) (n : ℤ) :
    ∃ h', (setMoreCellCountToExtend n : HolderM F Unit).run h = .ok () h' ∧
      Executed (.setMoreCellCountToExtend n) h h' := by
  refine ⟨_, rfl, ⟨⟨?_, hI.resolution_valid, hI.avail_size, hI.mapDat_length, hI.avail_aligned,
    hI.valid_within, hI.outside_zero⟩, fun _ _ => Within.refl _, ?_⟩⟩
  · simp only [defaultMoreCellCntToExtend]
    split_ifs with hn
    · exact hn
    · norm_num
  · exact fun m hm => ⟨hm.resolution_eq, hm.byteAt_eq⟩

theorem executed_reinit {h : ServerMapHolder F} (hI : Inv h) (resolution : F) :
    (∃ h', (reinit resolution).run h = .ok () h' ∧ h'.resolution = resolution ∧
      Executed (.reinit resolution) h h') ∨
    ∃ what, (reinit resolution).run h = .error (.runtimeError what) h := by
  rcases checkResolutionValidity_spec resolution with ⟨hok, hvalid⟩ | ⟨what, herr⟩
  · left
    refine ⟨_, by simp only [reinit, EStateM.run_bind, hok, run_ofExcept_ok]; rfl, rfl,
      ⟨?_, nofun, ?_⟩⟩
    · exact ⟨hI.more_nonneg, hvalid, ⟨le_rfl, le_rfl⟩, rfl, Or.inl empty_default,
        Or.inl empty_default, fun x y _ => byteAt_of_empty empty_default x y⟩
    · exact fun m hm => ⟨rfl, fun x y => byteAt_of_empty empty_default x y⟩
  · exact Or.inr ⟨what, by simp [reinit, herr]⟩

theorem executed_reserve {h : ServerMapHolder F} (hI : Inv h) (alloc : ℕ → Bool)
    (r : RectangleI) :
    (∃ h', (reserveByCellIdxRect alloc r).run h = .ok () h' ∧
      Executed (.reserveByCellIdxRect r) h h') ∨
    (reserveByCellIdxRect alloc r).run h = .error .badAlloc h := by
  refine (reserveByCellIdxRect_spec hI alloc r).imp_left ?_
  rintro ⟨h', hrun, hgrown, -⟩
  exact ⟨h', hrun, hgrown.inv, fun _ => hgrown.avail_within, fun m hm => hm.grownTo hgrown⟩

/-- An area asks for the rectangle around it, if it has one. -/
theorem reserveByArea_cases (alloc : ℕ → Bool) (a : RectangleF F) (h : ServerMapHolder F) :
    (reserveByArea alloc a).run h = .ok () h ∨
    (∃ e, sfCalcMinBoundingCellIdxRect h.resolution a = .error e ∧
      (reserveByArea alloc a).run h = .error e h) ∨
    ∃ r, (reserveByArea alloc a).run h = (reserveByCellIdxRect alloc r).run h := by
  by_cases ha : a.empty
  · exact Or.inl (by simp [reserveByArea, ha])
  · cases hbound : sfCalcMinBoundingCellIdxRect h.resolution a with
    | error e => exact Or.inr (Or.inl ⟨e, rfl, by simp [reserveByArea, ha, hbound]⟩)
    | ok r => exact Or.inr (Or.inr ⟨r, by simp [reserveByArea, ha, hbound]⟩)

theorem executed_reserveByArea {h : ServerMapHolder F} (hI : Inv h) (alloc : ℕ → Bool)
    (a : RectangleF F) :
    (∃ h', (reserveByArea alloc a).run h = .ok () h' ∧ Executed (.reserveByArea a) h h') ∨
    ∃ e, (reserveByArea alloc a).run h = .error e h ∧
      (e.isFault = true → sfCalcMinBoundingCellIdxRect h.resolution a = .error e) := by
  rcases reserveByArea_cases alloc a h with hrun | ⟨e, hbound, hrun⟩ | ⟨r, hcall⟩
  · exact Or.inl ⟨h, hrun, hI, fun _ _ => Within.refl _, fun m hm => hm⟩
  · exact Or.inr ⟨e, hrun, fun _ => hbound⟩
  · rw [hcall]
    rcases executed_reserve hI alloc r with ⟨h', hrun, hexec⟩ | hrun
    · exact Or.inl ⟨h', hrun, hexec.inv, hexec.avail_within, hexec.refines⟩
    · exact Or.inr ⟨_, hrun, nofun⟩

/-- A block that is written, by either of the two functions. -/
theorem executed_written {call : HolderCall F} {h h' : ServerMapHolder F} {x y : F}
    {dimX dimY : ℤ} {src : ℤ → Option UInt8}
    (hstep : ∀ m : CellMap F,
      m.step call = m.writeBlock (cellIdxRectToUp m.resolution x y dimX dimY) src)
    (hwritten : WrittenTo (cellIdxRectToUp h.resolution x y dimX dimY) src h h') :
    Executed call h h' where
  inv := hwritten.inv
  avail_within _ := hwritten.avail_within
  refines m hm := by
    rw [hstep, ← hm.resolution_eq]
    exact hm.writtenTo hwritten

theorem exec_spec {h : ServerMapHolder F} (hI : Inv h) (alloc : ℕ → Bool) (call : HolderCall F) :
    (∃ h', (call.exec alloc).run h = .ok () h' ∧ Executed call h h') ∨
    ∃ e, (call.exec alloc).run h = .error e h ∧ (e.isFault = true →
      ∃ a, call = .reserveByArea a ∧ sfCalcMinBoundingCellIdxRect h.resolution a = .error e) := by
  cases call with
  | clear =>
      obtain ⟨h', hrun, -, hexec⟩ := executed_clear hI
      exact Or.inl ⟨h', hrun, hexec⟩
  | reinit resolution =>
      rcases executed_reinit hI resolution with ⟨h', hrun, -, hexec⟩ | ⟨what, hrun⟩
      · exact Or.inl ⟨h', hrun, hexec⟩
      · exact Or.inr ⟨_, hrun, nofun⟩
  | setMoreCellCountToExtend n => exact Or.inl (executed_setMoreCellCountToExtend hI n)
  | reserveByCellIdxRect r =>
      rcases executed_reserve hI alloc r with hok | hrun
      · exact Or.inl hok
      · exact Or.inr ⟨_, hrun, nofun⟩
  | reserveByArea a =>
      rcases executed_reserveByArea hI alloc a with hok | ⟨e, hrun, hfault⟩
      · exact Or.inl hok
      · exact Or.inr ⟨e, hrun, fun hf => ⟨a, rfl, hfault hf⟩⟩
  | setMapData x y resolution dimX dimY srcDat =>
      rcases setMapData_spec hI alloc x y resolution dimX dimY
        (fun i => some (srcDat i.toNat)) (fun _ _ _ => rfl) with
        ⟨h', hrun, hwritten, -⟩ | ⟨e, hrun, he⟩
      · exact Or.inl ⟨h', hrun, executed_written (fun _ => rfl) hwritten⟩
      · exact Or.inr ⟨e, hrun, fun hf => by simp [he] at hf⟩
  | setMapDataOfMap hMap =>
      cases hMap with
      | none => exact Or.inl ⟨h, rfl, hI, fun _ _ => Within.refl _, fun m hm => hm⟩
      | some hMap =>
          rcases setMapDataOfMap_spec hI alloc hMap with
            ⟨h', hrun, hwritten, -⟩ | ⟨e, hrun, he⟩
          · exact Or.inl ⟨h', hrun, executed_written (fun _ => rfl) hwritten⟩
          · exact Or.inr ⟨e, hrun, fun hf => by simp [he] at hf⟩

/-! ## Sequences of calls -/

theorem runCalls_ok {h h' : ServerMapHolder F} {alloc : ℕ → Bool} {call : HolderCall F}
    (hrun : (call.exec alloc).run h = .ok () h') (calls : List ((ℕ → Bool) × HolderCall F)) :
    runCalls h ((alloc, call) :: calls) = runCalls h' calls := by
  simp only [runCalls, hrun]

theorem runCalls_error {h : ServerMapHolder F} {alloc : ℕ → Bool} {call : HolderCall F} {e : Exn}
    (hrun : (call.exec alloc).run h = .error e h) (calls : List ((ℕ → Bool) × HolderCall F)) :
    runCalls h ((alloc, call) :: calls) = runCalls h calls := by
  simp only [runCalls, hrun]

theorem runCalls_inv {h : ServerMapHolder F} (hI : Inv h)
    (calls : List ((ℕ → Bool) × HolderCall F)) : Inv (runCalls h calls) := by
  induction calls generalizing h with
  | nil => exact hI
  | cons c calls ih =>
      obtain ⟨alloc, call⟩ := c
      rcases exec_spec hI alloc call with ⟨h', hrun, hexec⟩ | ⟨e, hrun, -⟩
      · rw [runCalls_ok hrun]
        exact ih hexec.inv
      · rw [runCalls_error hrun]
        exact ih hI

theorem runCalls_avail_within {h : ServerMapHolder F} (hI : Inv h)
    (calls : List ((ℕ → Bool) × HolderCall F)) (hreset : ∀ c ∈ calls, c.2.isReset = false)
    (hne : ¬sfIsCellIdxRectEmpty h.availCellIdxRect) :
    Within h.availCellIdxRect (runCalls h calls).availCellIdxRect := by
  induction calls generalizing h with
  | nil => exact Within.refl _
  | cons c calls ih =>
      obtain ⟨alloc, call⟩ := c
      have htail : ∀ c ∈ calls, c.2.isReset = false :=
        fun c hc => hreset c (List.mem_cons_of_mem _ hc)
      rcases exec_spec hI alloc call with ⟨h', hrun, hexec⟩ | ⟨e, hrun, -⟩
      · rw [runCalls_ok hrun]
        have hstep := hexec.avail_within (hreset _ List.mem_cons_self) hne
        exact hstep.trans (ih hexec.inv htail (not_empty_of_within hne hstep))
      · rw [runCalls_error hrun]
        exact ih hI htail hne

/-- In every state reached from construction the representation invariant holds,
room is never given up except by a reset, and no assertion or buffer access of
the next operation can fail.  Only the assertions on the bounding cells of an
area depend on the arithmetic. -/
theorem representation_invariant (calls : List ((ℕ → Bool) × HolderCall F)) :
    let h := runCalls (new : ServerMapHolder F) calls
    ((h.mapDat.length : ℤ) = h.availCellIdxRect.width * h.availCellIdxRect.height ∧
      (sfIsCellIdxRectEmpty h.availCellIdxRect ∨ Aligned h.availCellIdxRect) ∧
      (sfIsCellIdxRectEmpty h.validCellIdxRect ∨
        Within h.validCellIdxRect h.availCellIdxRect) ∧
      ∀ x y, sfDoesCellIdxRectContain h.availCellIdxRect x y →
        ¬sfDoesCellIdxRectContain h.validCellIdxRect x y →
          ofList h.mapDat (cellOffset h.availCellIdxRect x y) = some 0) ∧
    (∀ later : List ((ℕ → Bool) × HolderCall F), (∀ c ∈ later, c.2.isReset = false) →
      ¬sfIsCellIdxRectEmpty h.availCellIdxRect →
        Within h.availCellIdxRect (runCalls h later).availCellIdxRect) ∧
    (∀ (alloc : ℕ → Bool) (call : HolderCall F) (e : Exn) (h' : ServerMapHolder F),
      (call.exec alloc).run h = .error e h' → h' = h ∧ (e.isFault = true →
        ∃ a, call = .reserveByArea a ∧ sfCalcMinBoundingCellIdxRect h.resolution a = .error e)) ∧
    ∀ req, ∃ msg, fillRosMapMsg h req = .ok (req, msg) := by
  intro h
  have hI : Inv h := runCalls_inv inv_new calls
  refine ⟨⟨hI.mapDat_length, hI.avail_aligned, hI.valid_within, ?_⟩,
    fun later => runCalls_avail_within hI later, ?_, fillRosMapMsg_isOk hI⟩
  · intro x y havail hvalid
    rw [hI.stored havail, hI.outside_zero x y hvalid]
  · intro alloc call e h' hrun
    rcases exec_spec hI alloc call with ⟨h₁, hok, -⟩ | ⟨e₁, herr, hfault⟩
    · rw [hok] at hrun
      cases hrun
    · rw [herr] at hrun
      cases hrun
      exact ⟨rfl, hfault⟩

/-! ## Refinement -/

/-- The calls of a sequence that return. -/
def completed (h : ServerMapHolder F) : List ((ℕ → Bool) × HolderCall F) → List (HolderCall F)
  | [] => []
  | (alloc, call) :: calls =>
      match (call.exec alloc).run h with
      | .ok _ h' => call :: completed h' calls
      | .error _ h' => completed h' calls

/-- The abstract map after the calls of a sequence that return. -/
def writtenMap (calls : List ((ℕ → Bool) × HolderCall F)) : CellMap F :=
  (completed new calls).foldl CellMap.step CellMap.init

theorem runCalls_refines {h : ServerMapHolder F} {m : CellMap F} (hI : Inv h) (hm : Refines h m)
    (calls : List ((ℕ → Bool) × HolderCall F)) :
    Refines (runCalls h calls) ((completed h calls).foldl CellMap.step m) := by
  induction calls generalizing h m with
  | nil => exact hm
  | cons c calls ih =>
      obtain ⟨alloc, call⟩ := c
      rcases exec_spec hI alloc call with ⟨h', hrun, hexec⟩ | ⟨e, hrun, -⟩
      · rw [runCalls_ok hrun]
        simp only [completed, hrun, List.foldl_cons]
        exact ih hexec.inv (hexec.refines m hm)
      · rw [runCalls_error hrun]
        simp only [completed, hrun]
        exact ih hI hm

theorem toOccupancy_getD (c : Option UInt8) : toOccupancy (c.getD 0) = CellMap.occupancy c := by
  cases c with
  | none => rfl
  | some b =>
      simp only [toOccupancy, CellMap.occupancy, Option.getD_some, eq_comm (a := (0 : UInt8)),
        UInt8.le_iff_toNat_le, UInt8.lt_iff_toNat_lt]
      split_ifs <;> first | rfl | (simp at *; omega)

/-- The message depends on the abstract map only. -/
theorem fillRosMapMsg_eq_of_refines {h h' : ServerMapHolder F} {m : CellMap F} (hI : Inv h)
    (hI' : Inv h') (hm : Refines h m) (hm' : Refines h' m) (req : RectangleI) :
    fillRosMapMsg h req = fillRosMapMsg h' req := by
  by_cases hreq : sfIsCellIdxRectEmpty req
  · simp only [fillRosMapMsg, if_pos hreq, hm.resolution_eq, hm'.resolution_eq]
  · obtain ⟨msg, hmsg, hres, hox, hoy, hw, hh, hlen, hdata⟩ := fillRosMapMsg_spec hI hreq
    obtain ⟨msg', hmsg', hres', hox', hoy', hw', hh', hlen', hdata'⟩ :=
      fillRosMapMsg_spec hI' hreq
    have hdataEq : msg.data = msg'.data := by
      refine rowMajor_ext hreq hlen (hlen'.trans hlen.symm) fun x y hxy => ?_
      rw [hdata x y hxy, hdata' x y hxy, hm.byteAt_eq, hm'.byteAt_eq]
    rw [hmsg, hmsg']
    cases msg
    cases msg'
    simp_all [hm.resolution_eq, hm'.resolution_eq]

/-- What is published is the abstract map: every requested cell, in row-major
order, shows the last byte written to it since the last reset. -/
theorem fillRosMapMsg_refines (calls : List ((ℕ → Bool) × HolderCall F)) {req : RectangleI}
    (hw : 0 < req.width) (hh : 0 < req.height) :
    (∃ msg, fillRosMapMsg (runCalls (new : ServerMapHolder F) calls) req = .ok (req, msg) ∧
      (msg.width : ℤ) = req.width ∧ (msg.height : ℤ) = req.height ∧
      msg.data.length = msg.width * msg.height ∧
      ∀ i j : ℕ, i < msg.width → j < msg.height → msg.data[j * msg.width + i]? =
        some (CellMap.occupancy ((writtenMap calls).cells (req.x + i) (req.y + j)))) ∧
    ∀ calls', writtenMap calls' = (writtenMap calls : CellMap F) →
      fillRosMapMsg (runCalls (new : ServerMapHolder F) calls') req =
        fillRosMapMsg (runCalls new calls) req := by
  have hreq : ¬sfIsCellIdxRectEmpty req := not_empty_iff.mpr ⟨hw, hh⟩
  have hm := runCalls_refines inv_new refines_new calls
  constructor
  · obtain ⟨msg, hmsg, -, -, -, hwidth, hheight, hlen, hdata⟩ :=
      fillRosMapMsg_spec (runCalls_inv inv_new calls) hreq
    refine ⟨msg, hmsg, by omega, by omega, by rw [hlen, hwidth, hheight], ?_⟩
    intro i j hi hj
    have hcell := hdata (req.x + i) (req.y + j) ⟨hw, hh, by omega, by omega, by omega, by omega⟩
    have hoff : cellOffset req (req.x + i) (req.y + j) = ((j * msg.width + i : ℕ) : ℤ) := by
      rw [cellOffset_add, Nat.cast_add, Nat.cast_mul, hwidth, Int.toNat_of_nonneg hw.le]
      simp [cellOffset]
    rw [hoff, ofList_ofNat, hm.byteAt_eq, toOccupancy_getD] at hcell
    exact hcell
  · intro calls' heq
    have hm' : Refines (runCalls new calls') (writtenMap calls') :=
      runCalls_refines inv_new refines_new calls'
    rw [heq] at hm'
    exact fillRosMapMsg_eq_of_refines (runCalls_inv inv_new calls') (runCalls_inv inv_new calls)
      hm' hm req

/-- A reservation and one written cell at a negative index. -/
def reserveAndWrite : List ((ℕ → Bool) × HolderCall ℚ) :=
  [(fun _ => true, .reserveByCellIdxRect ⟨-5, 3, 40, 1⟩),
    (fun _ => true, .setMapData 0 (-1) (1 / 20) 1 1 fun _ => 200)]

theorem fillRosMapMsg_refines_written :
    ∃ msg, fillRosMapMsg (runCalls new reserveAndWrite) ⟨0, -20, 2, 1⟩ =
        .ok (⟨0, -20, 2, 1⟩, msg) ∧
      msg.data[0]? = some (100 : Int8) ∧ msg.data[1]? = some (-1 : Int8) := by
  obtain ⟨⟨msg, hmsg, hw, hh, -, hdata⟩, -⟩ :=
    fillRosMapMsg_refines reserveAndWrite (by decide : 0 < (⟨0, -20, 2, 1⟩ : RectangleI).width)
      (by decide)
  have hwritten : (writtenMap reserveAndWrite).cells 0 (-20) = some 200 := by decide +kernel
  have hunwritten : (writtenMap reserveAndWrite).cells 1 (-20) = none := by decide +kernel
  simp only at hw hh
  have h₀ := hdata 0 0 (by omega) (by omega)
  have h₁ := hdata 1 0 (by omega) (by omega)
  simp only [Nat.cast_zero, Nat.cast_one, add_zero, zero_add, zero_mul] at h₀ h₁
  rw [hwritten] at h₀
  rw [hunwritten] at h₁
  exact ⟨msg, hmsg, h₀, h₁⟩

end Ros2WsDemo

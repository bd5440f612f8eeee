import Ros2WsDemo.Lib.ExactFloat
import Ros2WsDemo.Lib.ExceptState

/-!
# The autonomous run over several floors

The steps of a navigation sequence are JSON texts.  What the base and the arm answer
is arbitrary, an exception included.  The calls to the base are kept in a list.
-/

namespace Ros2WsDemo.MultiFloor

open Python ExceptState

/-! ## Model -/

structure Robot (F W : Type) where
  loadMap : Str → W → Except Exn Bool × W
  relocalize : W → Except Exn Bool × W
  navToPose : Value F → W → Except Exn Bool × W
  /-- The routines of the arm and the elevator; they are told the floor. -/
  act : Str → Value F → W → Except Exn Unit × W

inductive Call (F : Type) where
  | loadMap (floor : Value F) (success : Bool)
  | relocalize (success : Bool)
  | navigate (waypoint : Value F) (currentFloor : Value F)

structure Session (F W : Type) where
  world : W
  currentFloor : Value F
  calls : List (Call F)

abbrev ExecM (F W : Type) := ExceptT Exn (StateM (Session F W))

section Model

variable {F W : Type}

def command {α : Type} (f : W → Except Exn α × W) : ExecM F W α := do
  ofExcept (← modifyGet fun s => ((f s.world).1, { s with world := (f s.world).2 }))

def record (c : Call F) : ExecM F W Unit := modify fun s => { s with calls := s.calls ++ [c] }

variable [Builtins F] (robot : Robot F W)

def switchMap (floorNum : Value F) : ExecM F W Bool := do
  let mapName := "floor_" ++ floorNum.toStr ++ ".slam"
  let success ← command (robot.loadMap mapName)
  record (.loadMap floorNum success)
  return success

def relocalizeOnFloor : ExecM F W Bool := do
  let success ← command robot.relocalize
  record (.relocalize success)
  if !success then
    let success ← command robot.relocalize
    record (.relocalize success)
    return success
  return success

def navigateToWaypoint (pose : Value F) : ExecM F W Bool := do
  record (.navigate pose (← get).currentFloor)
  command (robot.navToPose pose)

def actions : List Str := ["press_elevator", "grasp", "place", "store_pocket", "retrieve_pocket"]

def changeFloor (floor : Value F) : ExecM F W Unit := do
  let _ ← switchMap robot floor
  let _ ← relocalizeOnFloor robot
  modify fun s => { s with currentFloor := floor }

def performAction (action : Value F) : ExecM F W Unit :=
  match action with
  | .str name => do
      if actions.contains name then
        command (robot.act name (← get).currentFloor)
  | _ => return

/-- The local `current_floor` is the member: both are set together. -/
def autonomousStep (step : Value F) : ExecM F W Unit := do
  let floor ← ofExcept (step.get "floor")
  let waypoint ← ofExcept (step.get "waypoint")
  let action ← ofExcept (step.get "action")
  if !floor.eq (← get).currentFloor then
    changeFloor robot floor
  if waypoint.truthy then
    let _ ← navigateToWaypoint robot waypoint
  performAction robot action

variable (limit : ℕ)

def decodeStep (step : Str) : Except Exn (Value F) := Json.loads limit (step.replace 39 34)

def navSteps : List Str → ExecM F W Unit
  | [] => return
  | step :: rest => do
      match decodeStep limit step with
      | .ok step => autonomousStep robot step
      | .error _ => pure ()
      navSteps rest

def runAutonomous (startFloor : ℤ) (navSequence : List Str) : ExecM F W Unit := do
  modify fun s => { s with currentFloor := .int startFloor }
  navSteps robot limit navSequence

end Model

/-! ## What should hold -/

section Maps

variable {F : Type} (start : Value F)

/-- The map on the robot, where that of `start` was loaded before the run. -/
def loadedFloor (calls : List (Call F)) : Value F :=
  calls.foldl (fun loaded c => match c with
    | .loadMap floor true => floor
    | _ => loaded) start

/-- The last relocalisation after loading the map succeeded. -/
def localized (calls : List (Call F)) : Bool :=
  calls.foldl (fun localized c => match c with
    | .loadMap _ true => false
    | .relocalize success => success
    | _ => localized) true

def lastLoad (calls : List (Call F)) : Option (Value F × Bool) :=
  calls.foldl (fun last c => match c with
    | .loadMap floor success => some (floor, success)
    | _ => last) none

def lastRelocalize (calls : List (Call F)) : Option Bool :=
  calls.foldl (fun last c => match c with
    | .relocalize success => some success
    | _ => last) none

/-- Where the base is sent somewhere, the floor is that of the map on the robot, in
which it is localized. -/
def RightMap (calls : List (Call F)) : Prop :=
  ∀ before waypoint floor after, calls = before ++ .navigate waypoint floor :: after →
    floor = loadedFloor start before ∧ localized before = true

/-- Where the base is sent somewhere after a change of floor, the last relocalisation
succeeded, and the last map was loaded or had been on the robot already. -/
def ChangesSucceed (calls : List (Call F)) : Prop :=
  ∀ before waypoint floor after, calls = before ++ .navigate waypoint floor :: after →
    ∀ target success, lastLoad before = some (target, success) →
      lastRelocalize before = some true ∧ (success = true ∨ target = loadedFloor start before)

end Maps

/-! ## What the calls say -/

section Calls

variable {F : Type} {start : Value F} {calls : List (Call F)}

/-- The floor is that of the last attempt to load a map, and there was a relocalisation
after it. -/
structure Believes (start : Value F) (calls : List (Call F)) (floor : Value F) : Prop where
  unchanged : lastLoad calls = none →
    floor = start ∧ loadedFloor start calls = start ∧ localized calls = true
  changed : ∀ target success, lastLoad calls = some (target, success) →
    floor = target ∧ (success = true → loadedFloor start calls = target) ∧
      lastRelocalize calls = some (localized calls)

theorem believes_nil : Believes start [] start where
  unchanged _ := ⟨rfl, rfl, rfl⟩
  changed _ _ h := by cases h

/-- The floor is right exactly if the last change of floor went well. -/
theorem Believes.right_iff {floor : Value F} (h : Believes start calls floor) :
    (floor = loadedFloor start calls ∧ localized calls = true) ↔
      ∀ target success, lastLoad calls = some (target, success) →
        lastRelocalize calls = some true ∧
          (success = true ∨ target = loadedFloor start calls) := by
  cases hlast : lastLoad calls with
  | none =>
      obtain ⟨hfloor, hloaded, hlocalized⟩ := h.unchanged hlast
      rw [hfloor, hloaded, hlocalized]
      simp
  | some last =>
      obtain ⟨target, success⟩ := last
      obtain ⟨rfl, hloaded, hreloc⟩ := h.changed target success hlast
      rw [hreloc]
      constructor
      · rintro ⟨hfloor, hlocalized⟩ target' success' hlast'
        cases hlast'
        exact ⟨congrArg some hlocalized, Or.inr hfloor⟩
      · intro hwell
        obtain ⟨hlocalized, hsuccess | hfloor⟩ := hwell floor success rfl
        · exact ⟨(hloaded hsuccess).symm, Option.some.inj hlocalized⟩
        · exact ⟨hfloor, Option.some.inj hlocalized⟩

/-- At every navigation the floor is believed in this sense. -/
def Sound (start : Value F) (calls : List (Call F)) : Prop :=
  ∀ before waypoint floor after, calls = before ++ .navigate waypoint floor :: after →
    Believes start before floor

theorem sound_nil : Sound start [] := by
  intro before waypoint floor after h
  simp at h

theorem Sound.snoc (h : Sound start calls) {c : Call F}
    (hc : ∀ waypoint floor, c = .navigate waypoint floor → Believes start calls floor) :
    Sound start (calls ++ [c]) := by
  intro before waypoint floor after hsplit
  rcases List.eq_nil_or_concat after with rfl | ⟨after, c', rfl⟩
  · obtain ⟨rfl, hlast⟩ := List.append_inj' hsplit rfl
    exact hc waypoint floor (List.cons.inj hlast).1
  · rw [List.concat_eq_append, ← List.cons_append, ← List.append_assoc] at hsplit
    exact h before waypoint floor after (List.append_inj' hsplit rfl).1

/-- The calls mean what they should mean if and only if every change of floor before a
navigation went well. -/
theorem Sound.right_iff (h : Sound start calls) :
    RightMap start calls ↔ ChangesSucceed start calls :=
  forall₄_congr fun before waypoint floor after =>
    forall_congr' fun hsplit => (h before waypoint floor after hsplit).right_iff

/-- Between steps. -/
def Settled (start : Value F) (calls : List (Call F)) (floor : Value F) : Prop :=
  Sound start calls ∧ Believes start calls floor

/-- After the attempt to load the map of `target`. -/
def Loading (start target : Value F) (calls : List (Call F)) : Prop :=
  Sound start calls ∧ ∃ success, lastLoad calls = some (target, success) ∧
    (success = true → loadedFloor start calls = target)

theorem Sound.loading (h : Sound start calls) (target : Value F) (success : Bool) :
    Loading start target (calls ++ [.loadMap target success]) := by
  refine ⟨h.snoc fun waypoint floor hc => (by cases hc), success, ?_, ?_⟩
  · simp [lastLoad]
  · rintro rfl
    simp [loadedFloor]

theorem Loading.relocalize {target : Value F} (h : Loading start target calls) (success : Bool) :
    Loading start target (calls ++ [.relocalize success]) ∧
      Believes start (calls ++ [.relocalize success]) target := by
  obtain ⟨hsound, loaded, hlast, hloaded⟩ := h
  have hlast' : lastLoad (calls ++ [.relocalize success]) = some (target, loaded) := by
    simpa [lastLoad] using hlast
  have hloaded' : loaded = true →
      loadedFloor start (calls ++ [.relocalize success]) = target := by
    simpa [loadedFloor] using hloaded
  refine ⟨⟨hsound.snoc fun waypoint floor hc => (by cases hc), loaded, hlast', hloaded'⟩, ?_, ?_⟩
  · intro hnone
    cases hnone.symm.trans hlast'
  · intro target' loaded' hsome
    cases hsome.symm.trans hlast'
    exact ⟨rfl, hloaded', by simp [lastRelocalize, localized]⟩

theorem Settled.navigate {floor : Value F} (h : Settled start calls floor) (waypoint : Value F) :
    Settled start (calls ++ [.navigate waypoint floor]) floor := by
  obtain ⟨hsound, hbelieves⟩ := h
  refine ⟨hsound.snoc fun waypoint' floor' hc => ?_, ?_, ?_⟩
  · cases hc
    exact hbelieves
  · simpa [lastLoad, loadedFloor, localized] using hbelieves.unchanged
  · simpa [lastLoad, loadedFloor, localized, lastRelocalize] using hbelieves.changed

end Calls

/-! ## The run -/

section Run

variable {F W : Type} [Builtins F] {robot : Robot F W} {start : Value F}

/-- A property of the calls and of the recorded floor. -/
def At (P : List (Call F) → Value F → Prop) (s : Session F W) : Prop := P s.calls s.currentFloor

def Stopped (start : Value F) (s : Session F W) : Prop := Sound start s.calls

omit [Builtins F] in
/-- A command changes neither the calls nor the recorded floor. -/
theorem triple_command {α : Type} {P : List (Call F) → Value F → Prop}
    (hP : ∀ calls floor, P calls floor → Sound start calls) (f : W → Except Exn α × W) :
    Triple (At P) (command f : ExecM F W α) (fun _ => At P) (Stopped start) := by
  intro s hs
  have hrun : (command f : ExecM F W α).run.run s =
      ((f s.world).1, { s with world := (f s.world).2 }) := by
    unfold command
    rw [run_bind, run_modifyGet]
    rcases (f s.world).1 with e | a <;> rfl
  rw [hrun]
  constructor
  · rintro a s' h
    obtain ⟨-, rfl⟩ := Prod.mk.inj h
    exact hs
  · rintro e s' h
    obtain ⟨-, rfl⟩ := Prod.mk.inj h
    exact hP _ _ hs

omit [Builtins F] in
theorem triple_record {P Q : List (Call F) → Value F → Prop} {E : Session F W → Prop}
    {c : Call F} (h : ∀ calls floor, P calls floor → Q (calls ++ [c]) floor) :
    Triple (At P) (record c : ExecM F W Unit) (fun _ => At Q) E :=
  .modify fun _ hs => h _ _ hs

theorem triple_switchMap (target : Value F) :
    Triple (At (Settled start)) (switchMap robot target)
      (fun _ => At fun calls _ => Loading start target calls) (Stopped start) := by
  unfold switchMap
  refine .bind (triple_command (fun _ _ h => h.1) _) fun success => ?_
  exact .bind (triple_record fun _ _ h => h.1.loading target success) fun _ => .pure fun _ h => h

omit [Builtins F] in
theorem triple_relocalizeOnFloor (target : Value F) :
    Triple (At fun calls _ => Loading start target calls) (relocalizeOnFloor robot)
      (fun _ => At fun calls _ => Settled start calls target) (Stopped start) := by
  have hreloc : ∀ success, Triple (At fun calls _ => Loading start target calls)
      (record (.relocalize success) : ExecM F W Unit)
      (fun _ => At fun calls _ => Loading start target calls ∧ Believes start calls target)
      (Stopped start) := fun success => triple_record fun _ _ h => h.relocalize success
  have hsettled : ∀ s : Session F W,
      At (fun calls _ => Loading start target calls ∧ Believes start calls target) s →
        At (fun calls _ => Settled start calls target) s := fun s h => ⟨h.1.1, h.2⟩
  unfold relocalizeOnFloor
  refine .bind (triple_command (fun _ _ h => h.1) _) fun success => ?_
  refine .bind (hreloc success) fun _ => ?_
  cases success with
  | true => exact .pure hsettled
  | false =>
      have hretry : Triple (At fun calls _ => Loading start target calls)
          (command robot.relocalize : ExecM F W Bool)
          (fun _ => At fun calls _ => Loading start target calls) (Stopped start) :=
        triple_command (fun _ _ h => h.1) _
      refine .bind (hretry.mono (fun _ h => h.1) fun _ _ h => h) fun success => ?_
      exact .bind (hreloc success) fun _ => .pure hsettled

omit [Builtins F] in
theorem triple_navigateToWaypoint (pose : Value F) :
    Triple (At (Settled start)) (navigateToWaypoint robot pose) (fun _ => At (Settled start))
      (Stopped start) := by
  unfold navigateToWaypoint
  refine .bind .get fun s => .bind (Q := fun _ => At (Settled start)) ?_ fun _ =>
    triple_command (fun _ _ h => h.1) _
  refine .modify fun s' h => ?_
  obtain ⟨rfl, hs⟩ := h
  exact hs.navigate pose

omit [Builtins F] in
/-- Reading a member of a step changes nothing. -/
theorem triple_ofExcept {α : Type} (x : Except Exn α) :
    Triple (At (Settled start)) (ofExcept x : ExecM F W α) (fun _ => At (Settled start))
      (Stopped start) :=
  .ofExcept (fun _ _ _ h => h) fun _ h => h.1

theorem triple_changeFloor (floor : Value F) :
    Triple (At (Settled start)) (changeFloor robot floor) (fun _ => At (Settled start))
      (Stopped start) :=
  .bind (triple_switchMap floor) fun _ => .bind (triple_relocalizeOnFloor floor) fun _ =>
    .modify fun _ h => h

omit [Builtins F] in
theorem triple_get :
    Triple (At (Settled start)) (get : ExecM F W (Session F W)) (fun _ => At (Settled start))
      (Stopped start) :=
  Triple.get.mono (fun _ h => h) fun _ _ h => h.2

omit [Builtins F] in
theorem triple_performAction (action : Value F) :
    Triple (At (Settled start)) (performAction robot action) (fun _ => At (Settled start))
      (Stopped start) := by
  unfold performAction
  cases action with
  | str name =>
      dsimp only
      split_ifs
      · exact .bind triple_get fun _ => triple_command (fun _ _ h => h.1) _
      · exact .pure fun _ h => h
  | _ => exact .pure fun _ h => h

theorem triple_autonomousStep (step : Value F) :
    Triple (At (Settled start)) (autonomousStep robot step) (fun _ => At (Settled start))
      (Stopped start) := by
  unfold autonomousStep
  refine .bind (triple_ofExcept _) fun floor => .bind (triple_ofExcept _) fun waypoint =>
    .bind (triple_ofExcept _) fun action => .bind triple_get fun s => ?_
  have hnavigate : Triple (At (Settled start))
      (if waypoint.truthy = true then do
          let _ ← navigateToWaypoint robot waypoint
          performAction robot action
        else performAction robot action)
      (fun _ => At (Settled start)) (Stopped start) := by
    split_ifs
    · exact .bind (triple_navigateToWaypoint waypoint) fun _ => triple_performAction action
    · exact triple_performAction action
  dsimp only
  by_cases hfloor : (!floor.eq s.currentFloor) = true
  · rw [if_pos hfloor]
    exact .bind (triple_changeFloor floor) fun _ => hnavigate
  · rw [if_neg hfloor]
    exact hnavigate

variable (robot) in
theorem triple_navSteps (limit : ℕ) (steps : List Str) :
    Triple (At (Settled start)) (navSteps robot limit steps) (fun _ => At (Settled start))
      (Stopped start) := by
  induction steps with
  | nil => exact .pure fun _ h => h
  | cons step rest ih =>
      unfold navSteps
      cases decodeStep (F := F) limit step with
      | ok step => exact .bind (triple_autonomousStep step) fun _ => ih
      | error e => exact ih

end Run

/-- The calls of the run, from the start with the map of the start floor. -/
def runCalls {F W : Type} [Builtins F] (robot : Robot F W) (limit : ℕ) (startFloor : ℤ)
    (navSequence : List Str) (w : W) : List (Call F) :=
  ((runAutonomous robot limit startFloor navSequence).run.run
    ⟨w, .int startFloor, []⟩).2.calls

def unloadable : Robot Exact Unit where
  loadMap _ _ := (.ok false, ())
  relocalize _ := (.ok true, ())
  navToPose _ _ := (.ok true, ())
  act _ _ _ := (.ok (), ())

def upstairs : List Str := ["\x7b'floor': 2, 'waypoint': 'door'\x7d"]

/-- The base is sent somewhere on floor 2 after its map could not be loaded. -/
def drivesUnloaded : List (Call Exact) → Bool
  | [.loadMap (.int 2) false, .relocalize true, .navigate _ (.int 2)] => true
  | _ => false

theorem drivesUnloaded_upstairs :
    drivesUnloaded (runCalls unloadable 1000 1 upstairs ()) = true := by
  decide +kernel

end Ros2WsDemo.MultiFloor

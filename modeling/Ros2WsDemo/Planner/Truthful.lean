import Mathlib.Data.List.Infix
import Ros2WsDemo.Planner.NoRaise

/-!
# Plans that are executed truthfully

A plan should be carried out up to the first operation that fails, and `True` should
mean that all of it was.  The executor drops the report of a navigation and takes a
place for done when there is no pose to place at.  What it does after such a failure
decides whether the plan is executed truthfully nevertheless.
-/

namespace Ros2WsDemo.Planner

open Python ExceptState
open MobileManipulator (obsJoint Pose6)

section Model

variable {F : Type} [Arithmetic F] (console : Console) (msgs : Messages F)

/-! ## The actions of an answer -/

/-- The list that the loop goes through, if the executor gets there. -/
def actionsOf (plan : Value F) : Option (List (Value F)) :=
  if plan.truthy then
    match console.print plan.toStr, plan with
    | .ok _, .dict entries =>
        match (item entries "actions").orElse (item entries "steps") with
        | .list actions => some actions
        | _ => none
    | _, _ => none
  else none

def planned (limit : ℕ) (create : ℕ → Except Str Completion) : Option (List (Value F)) :=
  match callOpenaiPlanner console limit create with
  | .ok plan => actionsOf console plan
  | .error _ => none

/-! ## What a plan asks for -/

variable {W : Type} (robot : Robot F W)

/-- The operation, and whether it was carried out and reported a success. -/
def carryOut : Operation F → ExecM F W Bool
  | .navigate pose => navigateToWaypoint robot pose
  | .pick => do
      command (robot.moveJ obsJoint)
      performPickSequence robot
  | .place height => do
      let possible := (← get).operatePose.isSome
      let reported ← performPlaceSequence robot height
      return possible && reported

/-- The operations of the actions up to the first that fails, and whether none did. -/
def carryOutAll : ℕ → List (Value F) → ExecM F W Bool
  | _, [] => return true
  | idx, action :: rest => do
      match ← ofExcept (request console msgs idx action) with
      | none => return false
      | some operation =>
          if ← carryOut robot operation then
            carryOutAll (idx + 1) rest
          else
            return false

def carryOutInstruction (limit : ℕ) (create : ℕ → Except Str Completion) : ExecM F W Bool :=
  match planned console limit create with
  | some actions => carryOutAll console msgs robot 1 actions
  | none => return false

/-- The operation that was performed. -/
def Performed.Is : Performed F → Operation F → Prop
  | .navigate pose _, .navigate pose' => pose = pose'
  | .pick _, .pick => True
  | .place height _, .place height' => height = height'
  | _, _ => False

/-- The action of that number asks for the operation that was performed. -/
def Carries (action : Value F × ℕ) (p : Performed F) : Prop :=
  ∃ operation, request console msgs action.2 action.1 = .ok (some operation) ∧ p.Is operation

/-- The run has ended before the robot was asked for the operation: the first motion of a
pick has raised, or there is no pose to place at. -/
def EndsBefore (due : Except Exn Bool × Session F W) : Operation F → Prop
  | .navigate _ => False
  | .pick => ∃ e, due.1 = .error e
  | .place _ => due.2.operatePose = none

/-- Each of the first actions was performed once, in their order.  All but the last were
reported a success, and the run has not ended before the last failed or the next action
could not be performed.  `True` means that every action was carried out. -/
def InPlanOrder (s : Session F W) (idx : ℕ) (actions : List (Value F))
    (due : Except Exn Bool × Session F W) : Prop :=
  ∃ ps, due.2.performed = s.performed ++ ps ∧
    List.Forall₂ (Carries console msgs) ((actions.zipIdx idx).take ps.length) ps ∧
    (∀ p ∈ ps.dropLast, p.reported = true) ∧
    (∀ next ∈ (actions.zipIdx idx)[ps.length]?,
      (∃ p ∈ ps.getLast?, p.reported = false) ∨
        ∀ operation, request console msgs next.2 next.1 = .ok (some operation) →
          EndsBefore due operation) ∧
    (due.1 = .ok true ↔ ps.length = actions.length ∧ ∀ p ∈ ps, p.reported = true)

/-- The same operations were performed, and `True` was returned if it was due. -/
def AsDue (executed due : Except Exn Bool × Session F W) : Prop :=
  executed.2.performed = due.2.performed ∧ (executed.1 = .ok true ↔ due.1 = .ok true)

/-- The operations are those of the actions up to the first that fails, and `True` is
returned if and only if every one was carried out and reported a success. -/
def Truthful (limit : ℕ) (create : ℕ → Except Str Completion) (s : Session F W) : Prop :=
  AsDue ((executeInstructionWithGpt console msgs robot limit create).run.run s)
    ((carryOutInstruction console msgs robot limit create).run.run s)

/-! ## The condition -/

/-- The operation fails and the executor does not notice. -/
def FailsSilently (s : Session F W) : Operation F → Prop
  | .navigate pose => (robot.navToPose pose s.world).1 = false
  | .pick => False
  | .place _ => s.operatePose = none

/-- The executor breaks off before it performs anything: after any number of places
without a pose to place at there is an action that it rejects, or a pick whose first
motion raises. -/
def StopsIdle (s : Session F W) : ℕ → List (Value F) → Prop
  | _, [] => False
  | idx, action :: rest =>
      match request console msgs idx action with
      | .ok (some (.navigate _)) => False
      | .ok (some .pick) => ∃ e, (robot.moveJ obsJoint s.world).1 = .error e
      | .ok (some (.place _)) => s.operatePose = none ∧ StopsIdle s (idx + 1) rest
      | _ => True

/-- No operation fails silently, or the executor breaks off idly after the first that
does. -/
def FailuresNoticed (s : Session F W) : ℕ → List (Value F) → Prop
  | _, [] => True
  | idx, action :: rest =>
      match request console msgs idx action with
      | .ok (some operation) =>
          match (carryOut robot operation).run.run s with
          | (.ok true, s') => FailuresNoticed s' (idx + 1) rest
          | (.ok false, s') =>
              FailsSilently robot s operation → StopsIdle console msgs robot s' (idx + 1) rest
          | (.error _, _) => True
      | _ => True

/-! ## One operation -/

section Operation

variable {robot} {s : Session F W}

theorem carryOut_pick_ok (h : (robot.moveJ obsJoint s.world).1 = .ok ()) :
    ∃ b s', (carryOut robot .pick).run.run s = (.ok b, s') ∧
      s'.performed = s.performed ++ [.pick b] := by
  obtain ⟨b, s', hpick, hperformed⟩ := run_performPickSequence robot
    { s with world := (robot.moveJ obsJoint s.world).2 }
  refine ⟨b, s', ?_, hperformed⟩
  unfold carryOut
  rw [run_bind, run_command, h]
  exact hpick

theorem carryOut_pick_raises {e : Exn} (h : (robot.moveJ obsJoint s.world).1 = .error e) :
    (carryOut robot .pick).run.run s =
      (.error e, { s with world := (robot.moveJ obsJoint s.world).2 }) := by
  unfold carryOut
  rw [run_bind, run_command, h]

theorem carryOut_place_none (height : F) (h : s.operatePose = none) :
    (carryOut robot (.place height)).run.run s = (.ok false, s) := by
  unfold carryOut
  rw [run_get_bind, run_bind, run_performPlaceSequence_none robot height h, h]
  rfl

theorem carryOut_place_some (height : F) {p : Pose6 F} (h : s.operatePose = some p) :
    ∃ b s', (carryOut robot (.place height)).run.run s = (.ok b, s') ∧
      s'.performed = s.performed ++ [.place height b] := by
  obtain ⟨b, s', hplace, hperformed⟩ := run_performPlaceSequence_some robot height h
  refine ⟨b, s', ?_, hperformed⟩
  unfold carryOut
  rw [run_get_bind, run_bind, hplace, h]
  rfl

/-- After a silent failure the loop goes on from where the operation has left the robot. -/
theorem run_perform_silent {operation : Operation F} (h : FailsSilently robot s operation) :
    ∃ s', (carryOut robot operation).run.run s = (.ok false, s') ∧
      (perform robot operation).run.run s = (.ok true, s') := by
  cases operation with
  | navigate pose =>
      refine ⟨_, ?_, rfl⟩
      unfold carryOut navigateToWaypoint
      rw [run_bind, run_onRobot, h]
      rfl
  | pick => exact h.elim
  | place height =>
      exact ⟨s, carryOut_place_none height h, run_performPlaceSequence_none robot height h⟩

/-- The executor stops at every other failure. -/
theorem run_perform_noticed {operation : Operation F} (h : ¬ FailsSilently robot s operation) :
    (perform robot operation).run.run s = (carryOut robot operation).run.run s := by
  cases operation with
  | navigate pose =>
      have hreported : (robot.navToPose pose s.world).1 = true := by
        simpa [FailsSilently] using h
      unfold perform carryOut navigateToWaypoint
      rw [run_bind, run_bind, run_onRobot, hreported]
      rfl
  | pick => rfl
  | place height =>
      obtain ⟨p, hpose⟩ := Option.ne_none_iff_exists'.mp h
      obtain ⟨b, s', hplace, -⟩ := run_performPlaceSequence_some robot height hpose
      unfold perform carryOut
      rw [run_get_bind, run_bind, hplace, hpose]
      rfl

/-- The robot is asked to perform the operation. -/
def Starts (robot : Robot F W) (s : Session F W) : Operation F → Prop
  | .navigate _ => True
  | .pick => (robot.moveJ obsJoint s.world).1 = .ok ()
  | .place _ => s.operatePose ≠ none

theorem performed_perform {operation : Operation F} (h : Starts robot s operation) :
    ∃ p : Performed F, p.Is operation ∧
      ((perform robot operation).run.run s).2.performed = s.performed ++ [p] := by
  cases operation with
  | navigate pose => exact ⟨.navigate pose (robot.navToPose pose s.world).1, rfl, rfl⟩
  | pick =>
      obtain ⟨b, s', hpick, hperformed⟩ := carryOut_pick_ok h
      rw [run_perform_noticed id, hpick]
      exact ⟨.pick b, trivial, hperformed⟩
  | place height =>
      obtain ⟨p, hpose⟩ := Option.ne_none_iff_exists'.mp h
      obtain ⟨b, s', hplace, hperformed⟩ := carryOut_place_some height hpose
      have hnoticed : ¬ FailsSilently robot s (.place height) := h
      rw [run_perform_noticed hnoticed, hplace]
      exact ⟨.place height b, rfl, hperformed⟩

theorem performed_perform_not {operation : Operation F} (h : ¬ Starts robot s operation) :
    ((perform robot operation).run.run s).2.performed = s.performed := by
  cases operation with
  | navigate pose => exact (h trivial).elim
  | pick =>
      rw [run_perform_noticed id]
      rcases hmove : (robot.moveJ obsJoint s.world).1 with e | _
      · rw [carryOut_pick_raises hmove]
      · exact (h hmove).elim
  | place height =>
      have hpose : s.operatePose = none := not_not.mp h
      unfold perform
      rw [run_performPlaceSequence_none robot height hpose]

variable (robot) in
theorem performed_prefix_perform (operation : Operation F) (s : Session F W) :
    s.performed <+: ((perform robot operation).run.run s).2.performed := by
  by_cases h : Starts robot s operation
  · obtain ⟨p, -, hperformed⟩ := performed_perform h
    exact ⟨[p], hperformed.symm⟩
  · exact (performed_perform_not h).symm ▸ List.prefix_rfl

end Operation

/-! ## The loop -/

section Loop

variable {console msgs robot}

variable (console msgs) in
/-- An action asks for an operation, or the loop does not get past it. -/
theorem requested_or_rejected (idx : ℕ) (action : Value F) :
    (∃ operation, request console msgs idx action = .ok (some operation)) ∨
      ∀ operation, request console msgs idx action ≠ .ok (some operation) :=
  (em _).imp_right not_exists.mp

variable (robot) in
theorem executeActions_rejected {idx : ℕ} {action : Value F} (rest : List (Value F))
    (h : ∀ operation, request console msgs idx action ≠ .ok (some operation))
    (s : Session F W) : ∃ r, r ≠ .ok true ∧
      (executeActions console msgs robot idx (action :: rest)).run.run s = (r, s) ∧
      (carryOutAll console msgs robot idx (action :: rest)).run.run s = (r, s) := by
  unfold executeActions carryOutAll
  rcases hrequest : request console msgs idx action with e | _ | operation
  · exact ⟨.error e, by simp, rfl, rfl⟩
  · exact ⟨.ok false, by simp, rfl, rfl⟩
  · exact (h operation hrequest).elim

theorem executeActions_requested {idx : ℕ} {action : Value F} {rest : List (Value F)}
    {operation : Operation F} (h : request console msgs idx action = .ok (some operation))
    (s : Session F W) :
    (executeActions console msgs robot idx (action :: rest)).run.run s =
      match (perform robot operation).run.run s with
      | (.ok true, s') => (executeActions console msgs robot (idx + 1) rest).run.run s'
      | (r, s') => (r, s') := by
  rw [executeActions, h, run_bind, run_ofExcept_ok]
  simp only [run_bind]
  rcases (perform robot operation).run.run s with ⟨e | _ | _, s'⟩ <;> rfl

theorem carryOutAll_requested {idx : ℕ} {action : Value F} {rest : List (Value F)}
    {operation : Operation F} (h : request console msgs idx action = .ok (some operation))
    (s : Session F W) :
    (carryOutAll console msgs robot idx (action :: rest)).run.run s =
      match (carryOut robot operation).run.run s with
      | (.ok true, s') => (carryOutAll console msgs robot (idx + 1) rest).run.run s'
      | (r, s') => (r, s') := by
  rw [carryOutAll, h, run_bind, run_ofExcept_ok]
  simp only [run_bind]
  rcases (carryOut robot operation).run.run s with ⟨e | _ | _, s'⟩ <;> rfl

variable (console msgs robot) in
theorem performed_prefix_executeActions (actions : List (Value F)) :
    ∀ (idx : ℕ) (s : Session F W),
      s.performed <+: ((executeActions console msgs robot idx actions).run.run s).2.performed := by
  induction actions with
  | nil => exact fun _ _ => List.prefix_rfl
  | cons action rest ih =>
      intro idx s
      rcases requested_or_rejected console msgs idx action with ⟨operation, h⟩ | h
      · have hprefix := performed_prefix_perform robot operation s
        rw [executeActions_requested h]
        rcases hperform : (perform robot operation).run.run s with ⟨e | _ | _, s'⟩
        · rwa [hperform] at hprefix
        · rwa [hperform] at hprefix
        · rw [hperform] at hprefix
          exact hprefix.trans (ih (idx + 1) s')
      · obtain ⟨r, -, hrun, -⟩ := executeActions_rejected robot rest h s
        rw [hrun]

/-- Once the robot is asked for something, the operations performed are not the same. -/
theorem performed_ne {idx : ℕ} {action : Value F} (rest : List (Value F)) {s : Session F W}
    {operation : Operation F} (h : request console msgs idx action = .ok (some operation))
    (hstarts : Starts robot s operation) :
    ((executeActions console msgs robot idx (action :: rest)).run.run s).2.performed ≠
      s.performed := by
  obtain ⟨p, -, hperformed⟩ := performed_perform hstarts
  have hprefix : s.performed ++ [p] <+:
      ((executeActions console msgs robot idx (action :: rest)).run.run s).2.performed := by
    rw [executeActions_requested h]
    rw [← hperformed]
    rcases (perform robot operation).run.run s with ⟨e | _ | _, s'⟩
    · exact List.prefix_refl _
    · exact List.prefix_refl _
    · exact performed_prefix_executeActions console msgs robot rest (idx + 1) s'
  intro heq
  have hlength := hprefix.length_le
  rw [heq, List.length_append, List.length_singleton] at hlength
  omega

theorem stopsIdle_requested {idx : ℕ} {action : Value F} {rest : List (Value F)}
    {operation : Operation F} (s : Session F W) :
    request console msgs idx action = .ok (some operation) →
      (StopsIdle console msgs robot s idx (action :: rest) ↔
        match operation with
        | .navigate _ => False
        | .pick => ∃ e, (robot.moveJ obsJoint s.world).1 = .error e
        | .place _ => s.operatePose = none ∧ StopsIdle console msgs robot s (idx + 1) rest) := by
  intro h
  rw [StopsIdle, h]
  cases operation <;> rfl

theorem stopsIdle_rejected {idx : ℕ} {action : Value F} (rest : List (Value F))
    (h : ∀ operation, request console msgs idx action ≠ .ok (some operation))
    (s : Session F W) : StopsIdle console msgs robot s idx (action :: rest) := by
  rw [StopsIdle]
  rcases hrequest : request console msgs idx action with e | _ | operation
  · trivial
  · trivial
  · exact (h operation hrequest).elim

/-- An executor that asks the robot for something does not break off idly. -/
theorem not_stopsIdle_of_starts {idx : ℕ} {action : Value F} {rest : List (Value F)}
    {s : Session F W} {operation : Operation F}
    (h : request console msgs idx action = .ok (some operation))
    (hstarts : Starts robot s operation) :
    ¬ StopsIdle console msgs robot s idx (action :: rest) := by
  rw [stopsIdle_requested s h]
  cases operation with
  | navigate pose => exact id
  | pick =>
      intro hraises
      obtain ⟨e, he⟩ := hraises
      cases he.symm.trans hstarts
  | place height => exact fun hidle => hstarts hidle.1

variable (console msgs robot) in
/-- What follows a silent failure is harmless exactly if the executor breaks off idly. -/
theorem stopsIdle_iff (actions : List (Value F)) : ∀ (idx : ℕ) (s : Session F W),
    ((executeActions console msgs robot idx actions).run.run s).2.performed = s.performed ∧
        ((executeActions console msgs robot idx actions).run.run s).1 ≠ .ok true ↔
      StopsIdle console msgs robot s idx actions := by
  induction actions with
  | nil => exact fun idx s => ⟨fun h => h.2 rfl, False.elim⟩
  | cons action rest ih =>
      intro idx s
      rcases requested_or_rejected console msgs idx action with ⟨operation, h⟩ | h
      · by_cases hstarts : Starts robot s operation
        · have hne := performed_ne rest h hstarts
          exact iff_of_false (fun hidle => hne hidle.1) (not_stopsIdle_of_starts h hstarts)
        rw [executeActions_requested h, stopsIdle_requested s h]
        cases operation with
        | navigate pose => exact (hstarts trivial).elim
        | pick =>
            rcases hmove : (robot.moveJ obsJoint s.world).1 with e | _
            · rw [run_perform_noticed id, carryOut_pick_raises hmove]
              simp
            · exact (hstarts hmove).elim
        | place height =>
            have hpose : s.operatePose = none := not_not.mp hstarts
            have hperform : (perform robot (.place height)).run.run s = (.ok true, s) :=
              run_performPlaceSequence_none robot height hpose
            rw [hperform, ih]
            exact (and_iff_right hpose).symm
      · obtain ⟨r, hr, hrun, -⟩ := executeActions_rejected robot rest h s
        rw [hrun]
        exact iff_of_true ⟨rfl, hr⟩ (stopsIdle_rejected rest h s)

theorem failuresNoticed_requested {idx : ℕ} {action : Value F} {rest : List (Value F)}
    {operation : Operation F} (h : request console msgs idx action = .ok (some operation))
    (s : Session F W) :
    FailuresNoticed console msgs robot s idx (action :: rest) ↔
      match (carryOut robot operation).run.run s with
      | (.ok true, s') => FailuresNoticed console msgs robot s' (idx + 1) rest
      | (.ok false, s') =>
          FailsSilently robot s operation → StopsIdle console msgs robot s' (idx + 1) rest
      | (.error _, _) => True := by
  rw [FailuresNoticed, h]

theorem failuresNoticed_rejected {idx : ℕ} {action : Value F} (rest : List (Value F))
    (h : ∀ operation, request console msgs idx action ≠ .ok (some operation))
    (s : Session F W) : FailuresNoticed console msgs robot s idx (action :: rest) := by
  rw [FailuresNoticed]
  rcases hrequest : request console msgs idx action with e | _ | operation
  · trivial
  · trivial
  · exact (h operation hrequest).elim

theorem asDue_executeActions_iff (actions : List (Value F)) : ∀ (idx : ℕ) (s : Session F W),
    AsDue ((executeActions console msgs robot idx actions).run.run s)
        ((carryOutAll console msgs robot idx actions).run.run s) ↔
      FailuresNoticed console msgs robot s idx actions := by
  induction actions with
  | nil => exact fun _ _ => ⟨fun _ => trivial, fun _ => ⟨rfl, Iff.rfl⟩⟩
  | cons action rest ih =>
      intro idx s
      rcases requested_or_rejected console msgs idx action with ⟨operation, h⟩ | h
      · rw [executeActions_requested h, carryOutAll_requested h, failuresNoticed_requested h]
        by_cases hsilent : FailsSilently robot s operation
        · obtain ⟨s', hcarried, hperform⟩ := run_perform_silent hsilent
          rw [hcarried, hperform]
          have hidle := stopsIdle_iff console msgs robot rest (idx + 1) s'
          simpa [AsDue, hsilent] using hidle
        · rw [run_perform_noticed hsilent]
          rcases hcarried : (carryOut robot operation).run.run s with ⟨e | _ | _, s'⟩
          · simp [AsDue]
          · simp [AsDue, hsilent]
          · exact ih (idx + 1) s'
      · obtain ⟨r, -, hrun, hdue⟩ := executeActions_rejected robot rest h s
        rw [hrun, hdue]
        exact iff_of_true ⟨rfl, Iff.rfl⟩ (failuresNoticed_rejected rest h s)

end Loop

/-! ## What is due -/

section Due

variable {robot}

variable (robot) in
/-- An operation is performed and its report handed on, or nothing is performed and it
is not taken for done. -/
theorem run_carryOut (operation : Operation F) (s : Session F W) :
    ∃ r s', (carryOut robot operation).run.run s = (r, s') ∧
      ((∃ p : Performed F, p.Is operation ∧ r = .ok p.reported ∧
          s'.performed = s.performed ++ [p]) ∨
        r ≠ .ok true ∧ s'.performed = s.performed ∧ EndsBefore (r, s') operation) := by
  cases operation with
  | navigate pose =>
      exact ⟨_, _, rfl, Or.inl ⟨.navigate pose (robot.navToPose pose s.world).1, rfl, rfl, rfl⟩⟩
  | pick =>
      rcases hmove : (robot.moveJ obsJoint s.world).1 with e | _
      · exact ⟨_, _, carryOut_pick_raises hmove, Or.inr ⟨by simp, rfl, e, rfl⟩⟩
      · obtain ⟨b, s', hpick, hperformed⟩ := carryOut_pick_ok hmove
        exact ⟨_, s', hpick, Or.inl ⟨.pick b, trivial, rfl, hperformed⟩⟩
  | place height =>
      cases hpose : s.operatePose with
      | none => exact ⟨_, s, carryOut_place_none height hpose, Or.inr ⟨by simp, rfl, hpose⟩⟩
      | some p =>
          obtain ⟨b, s', hplace, hperformed⟩ := carryOut_place_some height hpose
          exact ⟨_, s', hplace, Or.inl ⟨.place height b, rfl, rfl, hperformed⟩⟩

variable {console msgs}

/-- Nothing was performed for the first action, and the rest is not begun. -/
theorem InPlanOrder.none {s : Session F W} {idx : ℕ} {action : Value F}
    {rest : List (Value F)} {due : Except Exn Bool × Session F W}
    (hperformed : due.2.performed = s.performed) (hdue : due.1 ≠ .ok true)
    (hends : ∀ operation, request console msgs idx action = .ok (some operation) →
      EndsBefore due operation) :
    InPlanOrder console msgs s idx (action :: rest) due := by
  refine ⟨[], by simpa using hperformed, .nil, by simp, fun next hnext => Or.inr ?_, ?_⟩
  · cases hnext
    exact hends
  · exact iff_of_false hdue fun h => by simp at h

/-- The first action has failed. -/
theorem InPlanOrder.failed {s s' : Session F W} {idx : ℕ} {action : Value F}
    {rest : List (Value F)} {p : Performed F} (hp : Carries console msgs (action, idx) p)
    (hperformed : s'.performed = s.performed ++ [p]) (hreported : p.reported = false) :
    InPlanOrder console msgs s idx (action :: rest) (.ok false, s') := by
  refine ⟨[p], hperformed, ?_, by simp, fun _ _ => Or.inl ⟨p, rfl, hreported⟩, ?_⟩
  · simpa [List.zipIdx_cons] using hp
  · exact iff_of_false (by simp) fun h => by simp [hreported] at h

/-- The first action has succeeded, and the rest follows. -/
theorem InPlanOrder.cons {s s' : Session F W} {idx : ℕ} {action : Value F}
    {rest : List (Value F)} {p : Performed F} {due : Except Exn Bool × Session F W}
    (hp : Carries console msgs (action, idx) p)
    (hperformed : s'.performed = s.performed ++ [p]) (hreported : p.reported = true)
    (h : InPlanOrder console msgs s' (idx + 1) rest due) :
    InPlanOrder console msgs s idx (action :: rest) due := by
  obtain ⟨ps, hrest, hcarries, hbefore, hends, hall⟩ := h
  refine ⟨p :: ps, ?_, ?_, ?_, fun next hnext => ?_, ?_⟩
  · rw [hrest, hperformed, List.append_assoc, List.singleton_append]
  · rw [List.zipIdx_cons]
    exact .cons hp hcarries
  · cases ps with
    | nil => simp
    | cons q ps =>
        rw [List.dropLast_cons_of_ne_nil (List.cons_ne_nil q ps)]
        exact List.forall_mem_cons.mpr ⟨hreported, hbefore⟩
  · rw [List.zipIdx_cons, List.length_cons, List.getElem?_cons_succ] at hnext
    refine (hends next hnext).imp_left fun hfailed => ?_
    obtain ⟨q, hq, hfalse⟩ := hfailed
    exact ⟨q, List.mem_getLast?_cons hq, hfalse⟩
  · simp [hall, hreported]

/-- What is due are the operations of the actions up to the first that fails, in plan order
and each once. -/
theorem inPlanOrder_carryOutAll (actions : List (Value F)) : ∀ (idx : ℕ) (s : Session F W),
    InPlanOrder console msgs s idx actions
      ((carryOutAll console msgs robot idx actions).run.run s) := by
  induction actions with
  | nil =>
      intro idx s
      exact ⟨[], (List.append_nil _).symm, .nil, by simp, by simp, iff_of_true rfl (by simp)⟩
  | cons action rest ih =>
      intro idx s
      rcases requested_or_rejected console msgs idx action with ⟨operation, h⟩ | h
      · rw [carryOutAll_requested h]
        obtain ⟨r, s', hcarried, ⟨p, hp, rfl, hperformed⟩ | ⟨hr, hperformed, hends⟩⟩ :=
          run_carryOut robot operation s
        · have hcarries : Carries console msgs (action, idx) p := ⟨operation, h, hp⟩
          rw [hcarried]
          cases hreported : p.reported with
          | false => exact .failed hcarries hperformed hreported
          | true => exact .cons hcarries hperformed hreported (ih (idx + 1) s')
        · have hdue : InPlanOrder console msgs s idx (action :: rest) (r, s') := by
            refine .none hperformed hr fun operation' h' => ?_
            cases h.symm.trans h'
            exact hends
          rw [hcarried]
          rcases r with e | _ | _
          · exact hdue
          · exact hdue
          · exact (hr rfl).elim
      · obtain ⟨r, hr, -, hdue⟩ := executeActions_rejected robot rest h s
        rw [hdue]
        exact .none rfl hr fun operation h' => (h operation h').elim

end Due

/-! ## The instruction -/

section Instruction

variable {console msgs robot}

theorem executePlan_actionsOf (plan : Value F) (s : Session F W) :
    match actionsOf console plan with
    | some actions => (executePlan console msgs robot plan).run.run s =
        (executeActions console msgs robot 1 actions).run.run s
    | none => ∃ r, r ≠ .ok true ∧ (executePlan console msgs robot plan).run.run s = (r, s) := by
  unfold actionsOf
  by_cases htruthy : plan.truthy = true
  · rw [if_pos htruthy]
    rcases hprint : console.print plan.toStr with e | _
    · refine ⟨.error e, by simp, ?_⟩
      unfold executePlan
      rw [htruthy, hprint]
      rfl
    · cases plan with
      | dict entries =>
          dsimp only
          rw [executePlan_dict htruthy hprint]
          cases (item entries "actions").orElse (item entries "steps") with
          | list actions => rfl
          | _ => exact ⟨.ok false, by simp, rfl⟩
      | _ =>
          refine ⟨.error .attributeError, by simp, ?_⟩
          unfold executePlan
          rw [htruthy, hprint]
          rfl
  · rw [if_neg htruthy]
    refine ⟨.ok false, by simp, ?_⟩
    unfold executePlan
    rw [if_pos (by simp [htruthy])]
    rfl

variable (console msgs robot) in
theorem executeInstruction_planned (limit : ℕ) (create : ℕ → Except Str Completion)
    (s : Session F W) :
    match planned console limit create with
    | some actions => (executeInstructionWithGpt console msgs robot limit create).run.run s =
        (executeActions console msgs robot 1 actions).run.run s
    | none => ∃ r, r ≠ .ok true ∧
        (executeInstructionWithGpt console msgs robot limit create).run.run s = (r, s) := by
  unfold planned executeInstructionWithGpt
  rcases callOpenaiPlanner (F := F) console limit create with e | plan
  · exact ⟨.error e, by simp, rfl⟩
  · exact executePlan_actionsOf plan s

end Instruction

end Model

/-! ## A navigation that fails -/

def towards : ℕ → Except Str Completion := fun _ =>
  .ok (some
    [some "\x7b\"actions\": [\x7b\"type\": \"navigate\", \"target\": \"pool_nav\"\x7d]\x7d"])

def stuck : Robot Exact Unit := { obliging with navToPose := fun _ _ => (false, ()) }

def atStart : Session Exact Unit := ⟨(), none, none, .empty, []⟩

theorem stuck_returns_true :
    ((executeInstructionWithGpt plainConsole plainMessages stuck 1000 towards).run.run
      atStart).1 = .ok true := by
  decide +kernel

theorem stuck_due :
    ((carryOutInstruction plainConsole plainMessages stuck 1000 towards).run.run
      atStart).1 = .ok false := by
  decide +kernel

end Ros2WsDemo.Planner

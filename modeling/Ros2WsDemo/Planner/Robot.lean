import Ros2WsDemo.Grasp.Arm
import Ros2WsDemo.Lib.ExceptState

/-!
# The robot of the instruction executor

The operations that a plan can ask for: navigating, picking and placing.  The robot
answers from a state of its own, about which nothing is said.  Besides the members
the session keeps the list of the operations that were performed, with what they
reported.
-/

namespace Ros2WsDemo.Planner

open Python ExceptState
open MobileManipulator (Pose6 Translation ObjectState Command ArmCalls observation obsJoint)

/-! ## Poses -/

structure Point (F : Type) where
  x : F
  y : F
  z : F
  deriving DecidableEq

structure Quaternion (F : Type) where
  x : F
  y : F
  z : F
  w : F
  deriving DecidableEq

structure GeoPose (F : Type) where
  position : Point F
  orientation : Quaternion F
  deriving DecidableEq

/-- The constructors of the messages, called with positional arguments. -/
structure Messages (F : Type) where
  point : F → F → F → Except Exn (Point F)
  quaternion : F → F → F → F → Except Exn (Quaternion F)

/-! ## The robot -/

/-- `takePhoto` is `get_observation` after its motion and says whether there is an image;
`awaitPose` is the nested spin, which may end without a pose, or raise what the callback
raises. -/
structure Robot (F W : Type) where
  navToPose : Option (GeoPose F) → W → Bool × W
  moveJ : Pose6 F → W → Except Exn Unit × W
  moveJPose : Pose6 F → W → Except Exn Unit × W
  moveGripper : ℤ → W → Except Exn Unit × W
  takePhoto : W → Except Exn Bool × W
  getRTMatrix : W → Except Exn Unit × W
  deliverImage : Bool → W → Except Exn Unit × W
  awaitPose : W → Except Exn (Option (Translation F)) × W

/-- What was asked of the robot, and how it went. -/
inductive Performed (F : Type) where
  | navigate (pose : Option (GeoPose F)) (reported : Bool)
  | pick (reported : Bool)
  | place (height : F) (reported : Bool)
  deriving DecidableEq

def Performed.reported {F : Type} : Performed F → Bool
  | navigate _ reported => reported
  | pick reported => reported
  | place _ reported => reported

structure Session (F W : Type) where
  world : W
  objPose : Option (Translation F)
  operatePose : Option (Pose6 F)
  objectState : ObjectState
  performed : List (Performed F)

abbrev ExecM (F W : Type) := ExceptT Exn (StateM (Session F W))

section Model

variable {F W : Type}

def onRobot {α : Type} (f : W → α × W) : ExecM F W α :=
  modifyGet fun s => ((f s.world).1, { s with world := (f s.world).2 })

/-- A command that may raise. -/
def command {α : Type} (f : W → Except Exn α × W) : ExecM F W α := do
  ofExcept (← onRobot f)

def record (p : Performed F) : ExecM F W Unit :=
  modify fun s => { s with performed := s.performed ++ [p] }

/-- `try: m; return True` with `except Exception: return False` -/
def reportsSuccess {α : Type} (m : ExecM F W α) : ExecM F W Bool :=
  tryCatch
    (do
      let _ ← m
      return true)
    fun _ => return false

theorem run_onRobot {α : Type} (f : W → α × W) (s : Session F W) :
    (onRobot f : ExecM F W α).run.run s = (.ok (f s.world).1, { s with world := (f s.world).2 }) :=
  rfl

theorem run_command {α : Type} (f : W → Except Exn α × W) (s : Session F W) :
    (command f : ExecM F W α).run.run s = ((f s.world).1, { s with world := (f s.world).2 }) := by
  unfold command
  rw [run_bind, run_onRobot]
  rcases h : (f s.world).1 with e | a <;> rfl

theorem run_reportsSuccess {α : Type} (m : ExecM F W α) (s : Session F W) :
    (reportsSuccess m).run.run s =
      match m.run.run s with
      | (.ok _, s') => (.ok true, s')
      | (.error _, s') => (.ok false, s') := by
  unfold reportsSuccess
  rw [run_tryCatch, run_bind]
  rcases m.run.run s with ⟨e | a, s'⟩ <;> rfl

/-- A report is given in any case. -/
theorem returns_reportsSuccess {α : Type} (m : ExecM F W α) (s : Session F W) :
    ∃ b s', (reportsSuccess m).run.run s = (.ok b, s') := by
  rw [run_reportsSuccess]
  rcases m.run.run s with ⟨e | a, s'⟩
  · exact ⟨false, s', rfl⟩
  · exact ⟨true, s', rfl⟩

/-! ## What is left alone -/

/-- The program performs nothing. -/
def KeepsPerformed {α : Type} (m : ExecM F W α) : Prop :=
  ∀ s, (m.run.run s).2.performed = s.performed

namespace KeepsPerformed

variable {α β : Type}

theorem bind {m : ExecM F W α} {f : α → ExecM F W β} (hm : KeepsPerformed m)
    (hf : ∀ a, KeepsPerformed (f a)) : KeepsPerformed (m >>= f) := by
  intro s
  have hs := hm s
  rw [run_bind]
  rcases hr : m.run.run s with ⟨e | a, s'⟩
  · rwa [hr] at hs
  · rw [hr] at hs
    exact (hf a s').trans hs

theorem command (f : W → Except Exn α × W) : KeepsPerformed (command f : ExecM F W α) := by
  intro s
  rw [run_command]

theorem tryCatch {m : ExecM F W α} {h : Exn → ExecM F W α} (hm : KeepsPerformed m)
    (hh : ∀ e, KeepsPerformed (h e)) : KeepsPerformed (tryCatch m h) := by
  intro s
  have hs := hm s
  rw [run_tryCatch]
  rcases hr : m.run.run s with ⟨e | a, s'⟩
  · rw [hr] at hs
    exact (hh e s').trans hs
  · rwa [hr] at hs

theorem reportsSuccess {m : ExecM F W α} (hm : KeepsPerformed m) :
    KeepsPerformed (reportsSuccess m) := by
  intro s
  have hs := hm s
  rw [run_reportsSuccess]
  rcases hr : m.run.run s with ⟨e | a, s'⟩ <;> rwa [hr] at hs

end KeepsPerformed

/-! ## Operations -/

variable (robot : Robot F W)

def navigateToWaypoint (pose : Option (GeoPose F)) : ExecM F W Bool := do
  let reported ← onRobot (robot.navToPose pose)
  record (.navigate pose reported)
  return reported

variable [Arithmetic F]

def Robot.carryOut (robot : Robot F W) : Command F → W → Except Exn Unit × W
  | .moveJ joints => robot.moveJ joints
  | .moveJPose pose => robot.moveJPose pose
  | .gripper position => robot.moveGripper position

def armCalls : ArmCalls (ExecM F W) F where
  command _ c := command (robot.carryOut c)
  objPose := return (← get).objPose
  operatePose := return (← get).operatePose
  setOperatePose p := modify fun s => { s with operatePose := some p }
  setObjectState state := modify fun s => { s with objectState := state }

def graspObj (xBias yBias zBias : F) : ExecM F W Unit :=
  (armCalls robot).graspObj xBias yBias zBias

theorem keepsPerformed_graspObj (xBias yBias zBias : F) :
    KeepsPerformed (graspObj robot xBias yBias zBias) := by
  refine .bind (.command _) fun _ => .bind (.command _) fun _ => .bind (fun _ => rfl) fun pose => ?_
  cases pose with
  | none => exact fun _ => rfl
  | some t =>
      refine .bind (fun _ => rfl) fun _ => ?_
      refine .bind (.command _) fun _ => .bind (.command _) fun _ => .bind (.command _) fun _ => ?_
      exact .bind (.command _) fun _ _ => rfl

def getObservation : ExecM F W Bool :=
  observation (command (robot.moveJ obsJoint)) (command robot.takePhoto)

theorem keepsPerformed_getObservation : KeepsPerformed (getObservation robot) :=
  .tryCatch (.bind (.command _) fun _ => .command _) fun _ _ => rfl

def pickPipeline : ExecM F W Unit := do
  command (robot.moveJ obsJoint)
  let image ← getObservation robot
  command robot.getRTMatrix
  command (robot.deliverImage image)
  match ← command robot.awaitPose with
  | some t => modify fun s => { s with objPose := some t }
  | none => pure ()
  graspObj robot 26.08 (-18.985) 10.0

theorem keepsPerformed_pickPipeline : KeepsPerformed (pickPipeline robot) := by
  unfold pickPipeline
  refine .bind (.command _) fun _ => .bind (keepsPerformed_getObservation robot) fun image => ?_
  refine .bind (.command _) fun _ => .bind (.command _) fun _ => .bind (.command _) fun pose => ?_
  have hgrasp := keepsPerformed_graspObj robot 26.08 (-18.985) 10.0
  cases pose with
  | none => exact hgrasp
  | some t => exact .bind (fun _ => rfl) fun _ => hgrasp

def performPickSequence : ExecM F W Bool := do
  let reported ← reportsSuccess (pickPipeline robot)
  record (.pick reported)
  return reported

theorem run_performPickSequence (s : Session F W) :
    ∃ b s', (performPickSequence robot).run.run s = (.ok b, s') ∧
      s'.performed = s.performed ++ [.pick b] := by
  have hkeeps := (keepsPerformed_pickPipeline robot).reportsSuccess s
  obtain ⟨b, s', hpipeline⟩ := returns_reportsSuccess (pickPipeline robot) s
  rw [hpipeline] at hkeeps
  refine ⟨b, { s' with performed := s'.performed ++ [.pick b] }, ?_, ?_⟩
  · unfold performPickSequence
    rw [run_bind, hpipeline]
    rfl
  · rw [← hkeeps]

def placeAtFixedHeight (height : F) : ExecM F W (Option Bool) :=
  (armCalls robot).placeAtFixedHeight height

theorem keepsPerformed_placeAtFixedHeight (height : F) :
    KeepsPerformed (placeAtFixedHeight robot height) := by
  refine .bind (fun _ => rfl) fun pose => ?_
  cases pose with
  | none => exact fun _ => rfl
  | some p =>
      refine .bind (.command _) fun _ => .bind (.command _) fun _ => ?_
      refine .bind (fun _ => rfl) fun _ => ?_
      exact .bind (.command _) fun _ => .bind (.command _) fun _ _ => rfl

/-- Nothing is performed while there is no pose to place at. -/
def performPlaceSequence (height : F) : ExecM F W Bool := do
  let carriedOut := (← get).operatePose.isSome
  let reported ← reportsSuccess (placeAtFixedHeight robot height)
  if carriedOut then
    record (.place height reported)
  return reported

theorem run_performPlaceSequence_none (height : F) {s : Session F W} (h : s.operatePose = none) :
    (performPlaceSequence robot height).run.run s = (.ok true, s) := by
  have hplace : (placeAtFixedHeight robot height).run.run s = (.ok (some true), s) := by
    simp only [placeAtFixedHeight, ArmCalls.placeAtFixedHeight, armCalls]
    rw [run_read_bind, h]
    rfl
  unfold performPlaceSequence
  rw [run_get_bind, run_bind, run_reportsSuccess, hplace, h]
  rfl

theorem run_performPlaceSequence_some (height : F) {s : Session F W} {p : Pose6 F}
    (h : s.operatePose = some p) :
    ∃ b s', (performPlaceSequence robot height).run.run s = (.ok b, s') ∧
      s'.performed = s.performed ++ [.place height b] := by
  have hkeeps := (keepsPerformed_placeAtFixedHeight robot height).reportsSuccess s
  obtain ⟨b, s', hplace⟩ := returns_reportsSuccess (placeAtFixedHeight robot height) s
  rw [hplace] at hkeeps
  refine ⟨b, { s' with performed := s'.performed ++ [.place height b] }, ?_, ?_⟩
  · unfold performPlaceSequence
    rw [run_get_bind, run_bind, hplace, h]
    rfl
  · rw [← hkeeps]

end Model

end Ros2WsDemo.Planner

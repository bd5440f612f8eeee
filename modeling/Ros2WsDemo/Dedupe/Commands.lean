import Ros2WsDemo.Grasp.Arm
import Ros2WsDemo.Lib.ExceptState
import Ros2WsDemo.Planner.Executor

/-!
# The commands of the plan subscriber

`DedupePlanSubscriber.execute_command` with the operations it dispatches to.  What is
asked of the arm, the gripper, the base and the camera is an action; the robot answers
each of them from a state of its own, by raising an exception or with a value that
reports success or failure.  The code looks at this value for the photo only.
-/

namespace Ros2WsDemo.DedupePlan

open Python ExceptState
open MobileManipulator (Pose6 Translation ObjectState Command ArmCalls observation obsJoint)
open Planner (isIn)

/-! ## The robot -/

/-- For `takePhoto` success means that both frames are there. -/
inductive Action (F : Type) where
  | moveJ (joints : Pose6 F)
  | moveJPose (pose : Pose6 F)
  | moveGripper (position : ℤ)
  | navToObj (obj : Str)
  | takePhoto
  | getRTMatrix
  | publishImage

/-- A detected pose: its translation, and what computing the Euler angles of its rotation
does.  The angles themselves are not used. -/
structure ObjPose (F : Type) where
  translation : Translation F
  eulerAngles : Except Exn Unit

/-- `awaitPose` is the nested spin, which ends with a pose, without one when the context
is shut down, or with what the callback raises. -/
structure Robot (F W : Type) where
  perform : Action F → W → Except Exn Bool × W
  awaitPose : W → Except Exn (Option (ObjPose F)) × W

/-- The members the commands use, and what was asked of the robot so far, each action with
whether it was done without a reported failure. -/
structure Manipulator (F W : Type) where
  world : W
  objPose : Option (ObjPose F)
  operatePose : Option (Pose6 F)
  objectState : ObjectState
  actions : List (Action F × Bool)

abbrev CommandM (F W : Type) := ExceptT Exn (StateM (Manipulator F W))

section Model

variable {F W : Type} (robot : Robot F W)

/-- The answer is logged, and raised if it is an exception. -/
def perform (action : Action F) : CommandM F W Bool := do
  let answer ← modifyGet fun s =>
    let (answer, world) := robot.perform action s.world
    (answer, { s with
      world := world
      actions := s.actions ++ [(action, match answer with | .ok b => b | .error _ => false)] })
  ofExcept answer

/-- An action whose value is not looked at. -/
def command (action : Action F) : CommandM F W Unit := do
  let _ ← perform robot action

/-! ## Operations -/

variable [Arithmetic F]

def getObservation : CommandM F W Bool :=
  observation (command robot (.moveJ obsJoint)) (perform robot .takePhoto)

/-- `None` has no `shape`. -/
def deliverImage (image : Bool) : CommandM F W Unit :=
  if image then command robot .publishImage else throw .attributeError

def ofCommand : Command F → Action F
  | .moveJ joints => .moveJ joints
  | .moveJPose pose => .moveJPose pose
  | .gripper position => .moveGripper position

/-- The detected pose, once the angles of its rotation are computed. -/
def readObjPose : CommandM F W (Option (Translation F)) := do
  let some pose := (← get).objPose | return none
  ofExcept pose.eulerAngles
  return some pose.translation

def armCalls : ArmCalls (CommandM F W) F where
  command _ c := command robot (ofCommand c)
  objPose := readObjPose
  operatePose := return (← get).operatePose
  setOperatePose p := modify fun s => { s with operatePose := some p }
  setObjectState state := modify fun s => { s with objectState := state }

def graspObj (xBias yBias zBias : F) : CommandM F W Unit :=
  (armCalls robot).graspObj xBias yBias zBias

/-- The caller ignores the value. -/
def placeAtFixedHeight (height : F) : CommandM F W Unit := do
  let _ ← (armCalls robot).placeAtFixedHeight height

/-- The nested wait of the branch `pick`. -/
def waitForPose : CommandM F W Unit := do
  let answer ← modifyGet fun s => ((robot.awaitPose s.world).1,
    { s with world := (robot.awaitPose s.world).2 })
  match ← ofExcept answer with
  | none => return
  | some pose => modify fun s => { s with objPose := some pose }

/-- `command.split(':')[-1].lstrip()` -/
def target (command : Str) : Str :=
  (match command.rfind 58 with
    | none => command
    | some i => command.drop (i + 1)).dropWhile isSpace

/-- The body of the `try`. -/
def dispatch (text : Str) : CommandM F W Unit := do
  if isIn "observe" text then
    let image ← getObservation robot
    command robot .getRTMatrix
    deliverImage robot image
  else if isIn "go to" text then
    command robot (.navToObj (target text))
  else if isIn "pick" text then
    waitForPose robot
    graspObj robot 26.08 (-18.985) 10.0
  else if isIn "place" text then
    placeAtFixedHeight robot 0.75

/-- `True` unless an exception is raised. -/
def executeCommand (text : Str) (s : Manipulator F W) : Bool × Manipulator F W :=
  match (dispatch robot text).run.run s with
  | (.ok _, s') => (true, s')
  | (.error _, s') => (false, s')

end Model

end Ros2WsDemo.DedupePlan

import Ros2WsDemo.Lib.Prog
import Ros2WsDemo.Rpos.Basic

/-!
# The velocity callbacks

Two topics carry velocities, one for monitored and one for unmonitored motion.
Both callbacks create an action of their kind when the server holds none and
send the velocity through the held one otherwise.  ROS runs one callback at a
time.  The robot is a parameter: any deterministic machine, its failures included.
-/

namespace Ros2WsDemo.Velocity

open Effect

/-! ## Operations -/

inductive VelocityControlFlag where
  | monitoredByLocalizationQuality
  | notMonitored
  deriving DecidableEq, Repr

structure Vector3 (D : Type) where
  x : D
  y : D
  z : D
  deriving DecidableEq, Repr

structure Twist (D : Type) where
  linear : Vector3 D
  angular : Vector3 D
  deriving DecidableEq, Repr

/-- The handles of actions are of any type `A`. -/
inductive Op (A F : Type) where
  | safeGetSlamwarePlatform
  | readVelocityControllAction
  | writeVelocityControllAction (action : Option A)
  | velocityControl (flag : VelocityControlFlag)
  | setVelocity (action : A) (vx vy omega : F)
  | rclcppError (format : String)

abbrev Ret (A F : Type) : Op A F → Type
  | .safeGetSlamwarePlatform => Bool
  | .readVelocityControllAction => Option A
  | .writeVelocityControllAction _ => Unit
  | .velocityControl _ => Except Exn (Option A)
  | .setVelocity _ _ _ _ => Except Exn Unit
  | .rclcppError _ => Unit

section Callbacks

variable {A D F : Type}

abbrev CallbackM (A F : Type) := Prog (Ret A F) Exn

@[simp] def perform (o : Op A F) : CallbackM A F (Ret A F o) := Prog.perform o

def velocityControl (flag : VelocityControlFlag) : CallbackM A F (Option A) :=
  perform (.velocityControl flag) >>= fun r : Except Exn (Option A) => ofExcept r

def setVelocity (action : A) (vx vy omega : F) : CallbackM A F Unit :=
  perform (.setVelocity action vx vy omega) >>= fun r : Except Exn Unit => ofExcept r

def writeVelocityControllAction (action : Option A) : CallbackM A F Unit :=
  perform (F := F) (.writeVelocityControllAction action)

def rclcppError (format : String) : CallbackM A F Unit :=
  perform (A := A) (F := F) (.rclcppError format)

/-! ## The callbacks -/

/-- The common text of the two callbacks; `toFloat` is the conversion to the
parameter type of `setVelocity`. -/
def controlVelocity (flag : VelocityControlFlag) (cantConstruct cantSet : String) (toFloat : D → F)
    (msg : Twist D) : CallbackM A F Unit := do
  let action : Option A ← perform (A := A) (F := F) .readVelocityControllAction
  match action with
  | none =>
      Prog.tryCatch
        (do
          let action ← velocityControl flag
          writeVelocityControllAction action)
        fun e => if e.isStd then rclcppError cantConstruct else throw e
  | some action =>
      Prog.tryCatch
        (setVelocity action (toFloat msg.linear.x) (toFloat msg.linear.y) (toFloat msg.angular.z))
        fun e =>
          if e.isStd then do
            rclcppError cantSet
            writeVelocityControllAction none
          else throw e

def msgCbRobotControl (toFloat : D → F) (msg : Twist D) : CallbackM A F Unit :=
  controlVelocity .monitoredByLocalizationQuality "Can't construct velocity controll action:%s."
    "Can't set velocity:%s." toFloat msg

def msgCbRobotControlNoLimit (toFloat : D → F) (msg : Twist D) : CallbackM A F Unit :=
  controlVelocity .notMonitored "Can't construct not monitored velocity controll action:%s."
    "Can't set not monitored velocity:%s." toFloat msg

def msgCbWrapperFun (mfpCbPerform : Twist D → CallbackM A F Unit) (msg : Twist D) :
    CallbackM A F Unit := do
  let pltfm : Bool ← perform (A := A) (F := F) .safeGetSlamwarePlatform
  if !pltfm then
    return ← rclcppError "process msgTopic: %s, not connected."
  Prog.tryCatch (mfpCbPerform msg) fun e =>
    if e.isStd then rclcppError "process msgTopic: %s, exception: %s."
    else if e.isFault then throw e
    else rclcppError "process msgTopic: %s, unknown exception."

inductive Topic where
  | velControlTopic
  | cmdVelNoLimit
  deriving DecidableEq, Repr

/-- What the subscription of a topic calls. -/
def Topic.callback (toFloat : D → F) : Topic → Twist D → CallbackM A F Unit
  | velControlTopic => msgCbWrapperFun (msgCbRobotControl toFloat)
  | cmdVelNoLimit => msgCbWrapperFun (msgCbRobotControlNoLimit toFloat)

/-- The kind of motion a topic stands for. -/
def Topic.flag : Topic → VelocityControlFlag
  | velControlTopic => .monitoredByLocalizationQuality
  | cmdVelNoLimit => .notMonitored

variable (A) in
theorem callback_eq (toFloat : D → F) (topic : Topic) : ∃ cantConstruct cantSet,
    (topic.callback toFloat : Twist D → CallbackM A F Unit) =
      msgCbWrapperFun (controlVelocity topic.flag cantConstruct cantSet toFloat) := by
  cases topic <;> exact ⟨_, _, rfl⟩

structure Message (D : Type) where
  topic : Topic
  msg : Twist D
  deriving DecidableEq, Repr

end Callbacks

/-! ## Runs -/

/-- Of a handle only the flag it was created with matters. -/
structure VelocityControlMoveAction where
  flag : VelocityControlFlag
  deriving DecidableEq, Repr

/-- The robot, and the connection to it.  An action may be created without becoming
usable; its handle is then empty. -/
structure Robot (F ρ : Type) where
  connected : ρ → Bool × ρ
  velocityControl : VelocityControlFlag → ρ → Except Exn Bool × ρ
  setVelocity : VelocityControlMoveAction → F → F → F → ρ → Except Exn Unit × ρ

structure State (ρ : Type) where
  velocityControllAction : Option VelocityControlMoveAction
  robot : ρ

section Model

variable {D F ρ : Type}

abbrev Call (F : Type) :=
  (o : Op VelocityControlMoveAction F) × Ret VelocityControlMoveAction F o

@[simp] def handler (R : Robot F ρ) :
    (o : Op VelocityControlMoveAction F) → State ρ → Ret VelocityControlMoveAction F o × State ρ
  | .safeGetSlamwarePlatform, s =>
      let (connected, robot) := R.connected s.robot
      (connected, { s with robot := robot })
  | .readVelocityControllAction, s => (s.velocityControllAction, s)
  | .writeVelocityControllAction action, s => ((), { s with velocityControllAction := action })
  | .velocityControl flag, s =>
      match R.velocityControl flag s.robot with
      | (.ok usable, robot) =>
          (.ok (if usable then some ⟨flag⟩ else none), { s with robot := robot })
      | (.error e, robot) => (.error e, { s with robot := robot })
  | .setVelocity action vx vy omega, s =>
      let (done, robot) := R.setVelocity action vx vy omega s.robot
      (done, { s with robot := robot })
  | .rclcppError _, s => ((), s)

/-- One callback: the message, the action held before, and what happened. -/
structure Handled (D F : Type) where
  message : Message D
  held : Option VelocityControlMoveAction
  calls : List (Call F)
  result : Except Exn Unit

def handleMessage (R : Robot F ρ) (toFloat : D → F) (message : Message D) (s : State ρ) :
    Handled D F × State ρ :=
  let (result, s', calls) :=
    (message.topic.callback toFloat message.msg).eval (Prog.logging (handler R)) (s, [])
  (⟨message, s.velocityControllAction, calls, result⟩, s')

def handleMessages (R : Robot F ρ) (toFloat : D → F) :
    List (Message D) → State ρ → List (Handled D F)
  | [], _ => []
  | message :: messages, s =>
      let (handled, s') := handleMessage R toFloat message s
      handled :: handleMessages R toFloat messages s'

/-- The server after its construction. -/
def State.init (robot : ρ) : State ρ := ⟨none, robot⟩

end Model

end Ros2WsDemo.Velocity

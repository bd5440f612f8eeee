import Ros2WsDemo.Lib.Python

/-!
# The arm of the mobile manipulator

The operations of `MobileManipulatorInterface` that move the arm and the gripper,
with the members they share.  How the robot answers is an input of every call: one
answer for each direct command, in the order of the source, and one for each move
to a stored pose.  Of a detected pose only the translation is used.
-/

namespace Ros2WsDemo.MobileManipulator

open Python

/-! ## State -/

inductive ObjectState where
  | empty
  | held
  | stowed
  deriving DecidableEq, Repr

/-- Six numbers: joints, or a position with three angles. -/
structure Pose6 (F : Type) where
  x : F
  y : F
  z : F
  rx : F
  ry : F
  rz : F

/-- The last column of a detected 4 × 4 pose. -/
structure Translation (F : Type) where
  x : F
  y : F
  z : F

inductive Command (F : Type) where
  | moveJ (joints : Pose6 F)
  | moveJPose (pose : Pose6 F)
  | gripper (position : ℤ)

/-- The members, and the commands sent to the arm and the gripper so far. -/
structure Arm (F : Type) where
  objPose : Option (Translation F)
  buttonPose : Option (Translation F)
  cardPose : Option (Translation F)
  operatePose : Option (Pose6 F)
  objectState : ObjectState
  commands : List (Command F)

def Arm.init {F : Type} : Arm F := ⟨none, none, none, none, .empty, []⟩

/-! ## Answers of the robot -/

/-- The moves to stored poses. -/
inductive ConfigMove where
  | storeApproach
  | storeApproachAgain
  | storeDrop
  | storeRetreat
  | retrieveApproach
  | retrieveGrasp
  | retrieveRetreat
  | tableReady
  deriving DecidableEq

/-- How a move to a stored pose goes: the motion may raise, or the gripper command
that follows it. -/
inductive MoveOutcome where
  | succeeds
  | motionRaises
  | gripperRaises
  deriving DecidableEq

/-- `direct i` answers the direct command number `i` of a call and `holdJoint` the
fallback motion of `go_to_table_ready_pose`; `rtMatrix` is the pose of the tool, as
the six numbers read off the matrix the robot gives. -/
structure Outcomes (F : Type) where
  direct : ℕ → Except Exn Unit
  move : ConfigMove → MoveOutcome
  holdJoint : Except Exn Unit
  rtMatrix : Except Exn (Pose6 F)

abbrev ArmM (F : Type) := ExceptT Exn (StateM (Arm F))

section Model

variable {F : Type}

def send (c : Command F) : ArmM F Unit := modify fun s => { s with commands := s.commands ++ [c] }

/-- A command whose exception leaves the call. -/
def direct (out : Outcomes F) (i : ℕ) (c : Command F) : ArmM F Unit := do
  send c
  ofExcept (out.direct i)

/-! ## Stored poses -/

inductive MoveType where
  | pose
  | joint
  deriving DecidableEq

structure PoseEntry (F : Type) where
  type : MoveType
  values : Pose6 F
  gripper : Option F

section Config

variable [Builtins F]

/-- The list of six numbers, or `None`. -/
def normalizeValues (valuesRaw : Value F) : Except Exn (Option (Pose6 F)) :=
  match valuesRaw with
  | .list [a, b, c, d, e, f] => do
      let some x ← orNone a.toFloat | return none
      let some y ← orNone b.toFloat | return none
      let some z ← orNone c.toFloat | return none
      let some rx ← orNone d.toFloat | return none
      let some ry ← orNone e.toFloat | return none
      let some rz ← orNone f.toFloat | return none
      return some ⟨x, y, z, rx, ry, rz⟩
  | _ => .ok none

def isNone : Value F → Bool
  | .none => true
  | _ => false

/-- The entry under `key`, when there is one that is not `None`. -/
def present (entries : List (Str × Value F)) (key : Str) : Option (Value F) :=
  (entries.lookup key).filter fun v => !isNone v

def normalizePoseEntry (entry : Value F) : Except Exn (Option (PoseEntry F)) :=
  match entry with
  | .none => .ok none
  | .dict entries => do
      let gripperValue ← match present entries "gripper" with
        | none => pure (some none)
        | some v => (orNone v.toFloat).map fun x => x.map some
      let some gripperValue := gripperValue | return none
      match present entries "pose", present entries "joints" with
      | some valuesRaw, _ => do
          let some values ← normalizeValues valuesRaw | return none
          return some ⟨.pose, values, gripperValue⟩
      | none, some valuesRaw => do
          let some values ← normalizeValues valuesRaw | return none
          return some ⟨.joint, values, gripperValue⟩
      | none, none => return none
  | valuesRaw => do
      let some values ← normalizeValues valuesRaw | return none
      return some ⟨.pose, values, none⟩

/-- The pose configuration is the dictionary that was loaded. -/
abbrev PoseConfig (F : Type) := List (Str × Value F)

def fetchPoseEntry (poseConfig : PoseConfig F) (key : Str) (subkey : Option Str) :
    Except Exn (Option (PoseEntry F)) :=
  let entry := (poseConfig.lookup key).getD .none
  match subkey with
  | none => normalizePoseEntry entry
  | some subkey =>
      match entry with
      | .dict entries => normalizePoseEntry ((entries.lookup subkey).getD .none)
      | _ => .ok none

def motion (entry : PoseEntry F) : Command F :=
  match entry.type with
  | .joint => .moveJ entry.values
  | .pose => .moveJPose entry.values

def movePoseFromConfig (poseConfig : PoseConfig F) (out : Outcomes F) (move : ConfigMove)
    (key : Str) (subkey : Option Str) : ArmM F (Option (PoseEntry F)) := do
  let some entry ← ofExcept (fetchPoseEntry poseConfig key subkey) | return none
  send (motion entry)
  if out.move move = .motionRaises then
    return none
  match entry.gripper with
  | none => return some entry
  | some position =>
      match Builtins.toInt position with
      | .error _ => return none
      | .ok position =>
          send (.gripper position)
          if out.move move = .gripperRaises then
            return none
          return some entry

end Config

/-- What the pocket sequences tell the gripper when the entry of the move does not. -/
def commandGripperIfUnset (out : Outcomes F) (i : ℕ) (entry : PoseEntry F) (position : ℤ) :
    ArmM F Unit :=
  if entry.gripper.isNone then direct out i (.gripper position) else pure ()

/-! ## Operations -/

/-- A stored pose with its gripper target. -/
def poseDict (values : List F) (gripper : Value F) : Value F :=
  .dict [("pose", .list (values.map .float)), ("gripper", gripper)]

section Operations

variable [Arithmetic F]

/-- What `load_pose_config` uses when there is no file. -/
def defaultConfig : PoseConfig F :=
  [("put_in_pocket", .dict
      [("approach", poseDict [336.10, -132.51, 153.34, -32.46, 20.78, 7.19] (.int 200)),
        ("drop", poseDict [258.26, -32.44, 13.89, -27.63, 27.86, 27.27] (.int 800)),
        ("retreat", poseDict [302.052, -55.04, 172.80, -27.20, 26.31, 16.68] (.int 1000))]),
    ("elevator_observation_ready", .dict [("pose", .none), ("gripper", .none)]),
    ("elevator_observation_after_press", .dict [("pose", .none), ("gripper", .none)]),
    ("out_of_pocket", .dict
      [("approach", poseDict [278.0, 115.911, -42.634, 6.99, 70.34, 76.55] .none),
        ("grasp", poseDict [278.0, 115.911, -42.634, 6.99, 70.34, 76.55] (.int 300)),
        ("retreat", poseDict [278.0, 115.911, 160.634, 6.99, 70.34, 76.55] (.int 300))]),
    ("table_ready_pose", poseDict [655.09, -156.19, 135.11, -10.92, 70.11, 19.22] (.int 1000))]

def obsJoint : Pose6 F := ⟨-13.58, -21.84, 127.44, 99.98, 82.59, -5.08⟩

def holdJoint : Pose6 F := ⟨-11.95, -9.83, 97.83, 91.42, 84.0, -5.09⟩

def goToTableReadyPose (poseConfig : PoseConfig F) (out : Outcomes F) : ArmM F Bool := do
  match ← movePoseFromConfig poseConfig out .tableReady "table_ready_pose" none with
  | none =>
      send (.moveJ holdJoint)
      match out.holdJoint, out.rtMatrix with
      | .ok (), .ok pose => modify fun s => { s with operatePose := some pose }
      | _, _ => modify fun s => { s with operatePose := none }
      return false
  | some entry =>
      if entry.type = .pose then
        modify fun s => { s with operatePose := some entry.values }
      else
        match out.rtMatrix with
        | .ok pose => modify fun s => { s with operatePose := some pose }
        | .error _ => modify fun s => { s with operatePose := none }
      return true

/-! ### Grasping and placing -/

def transformedPose (t : Translation F) (xBias yBias zBias : F) : Pose6 F :=
  ⟨t.x * 1000.0 + xBias, t.y * 1000.0 + yBias, t.z * 1000.0 + zBias, -62.15, -57.52, 29.53⟩

def catchReadyPose (t : Translation F) (xBias yBias zBias : F) : Pose6 F :=
  ⟨t.x * 1000.0 + xBias - 100.0, t.y * 1000.0 + yBias, t.z * 1000.0 + zBias,
    -62.15, -57.52, 29.53⟩

def dropPose (p : Pose6 F) (height : F) : Pose6 F := { p with z := height * 1000.0 - 650.0 }

def postDropPose (p : Pose6 F) (height : F) : Pose6 F :=
  { p with x := p.x - 100.0, z := height * 1000.0 - 650.0 }

/-- What grasping and placing ask of the robot and of the members: the interface of the
console, the plan subscriber and the instruction executor have the same two functions. -/
structure ArmCalls (M : Type → Type) (F : Type) where
  /-- The direct command with this number in its call. -/
  command : ℕ → Command F → M Unit
  /-- `obj_pose`, with what is computed from it. -/
  objPose : M (Option (Translation F))
  operatePose : M (Option (Pose6 F))
  setOperatePose : Pose6 F → M Unit
  setObjectState : ObjectState → M Unit

section ArmCalls

variable {M : Type → Type} [Monad M] (calls : ArmCalls M F)

def ArmCalls.graspObj (xBias yBias zBias : F) : M Unit := do
  calls.command 0 (.moveJ obsJoint)
  calls.command 1 (.gripper 1000)
  let some t ← calls.objPose | return
  calls.setOperatePose (transformedPose t xBias yBias zBias)
  calls.command 2 (.moveJPose (catchReadyPose t xBias yBias zBias))
  calls.command 3 (.moveJPose (transformedPose t xBias yBias zBias))
  calls.command 4 (.gripper 100)
  calls.command 5 (.moveJ holdJoint)
  calls.setObjectState .held

/-- `True` is returned when there is no pose to place at; the other path has no value. -/
def ArmCalls.placeAtFixedHeight (height : F) : M (Option Bool) := do
  let some p ← calls.operatePose | return some true
  calls.command 0 (.moveJPose (dropPose p height))
  calls.command 1 (.gripper 1000)
  calls.setObjectState .empty
  calls.command 2 (.moveJPose (postDropPose p height))
  calls.command 3 (.moveJ obsJoint)
  return none

/-- Whether `get_observation` gives an image; exceptions are caught and logged. -/
def observation [MonadExceptOf Exn M] (moveJ : M Unit) (takePhoto : M Bool) : M Bool :=
  tryCatch
    (do
      moveJ
      takePhoto)
    fun _ => return false

end ArmCalls

def armCalls (out : Outcomes F) : ArmCalls (ArmM F) F where
  command := direct out
  objPose := return (← get).objPose
  operatePose := return (← get).operatePose
  setOperatePose p := modify fun s => { s with operatePose := some p }
  setObjectState state := modify fun s => { s with objectState := state }

def graspObj (out : Outcomes F) (xBias yBias zBias : F) : ArmM F Unit :=
  (armCalls out).graspObj xBias yBias zBias

def placeAtFixedHeight (out : Outcomes F) (height : F) : ArmM F (Option Bool) :=
  (armCalls out).placeAtFixedHeight height

/-! ### The other operations -/

def resetGraspPose (out : Outcomes F) (xBias yBias zBias : F) : ArmM F Unit := do
  direct out 0 (.moveJ obsJoint)
  direct out 1 (.gripper 1000)
  let some t := (← get).objPose | return
  let transformedPose : Pose6 F := ⟨t.x * 1000.0 + xBias, t.y * 1000.0 + yBias,
    t.z * 1000.0 + zBias, 18.93, -19.17, -61.98⟩
  modify fun s => { s with operatePose := some transformedPose }

def pressButtonUp (out : Outcomes F) (xBias yBias zBias : F) : ArmM F Unit := do
  direct out 0 (.gripper 1000)
  let some t := (← get).buttonPose | return
  direct out 1 (.moveJPose ⟨t.x * 1000.0 + xBias + 15.0, t.y * 1000.0 + yBias - 65.0,
    t.z * 1000.0 + zBias, -24.0, 18.0, -5.0⟩)

def pressButton (out : Outcomes F) (xBias yBias zBias : F) : ArmM F Unit := do
  direct out 0 (.gripper 1000)
  let some t := (← get).buttonPose | return
  let some c := (← get).cardPose | return
  direct out 1 (.moveJPose ⟨c.x * 1000.0 + xBias, c.y * 1000.0 + yBias + 40.0,
    c.z * 1000.0 + zBias, -45.0, -10.0, 10.0⟩)
  direct out 2 (.moveJPose ⟨c.x * 1000.0 + xBias - 120.0, c.y * 1000.0 + yBias,
    c.z * 1000.0 + zBias, -45.0, -10.0, 10.0⟩)
  direct out 3 (.moveJPose ⟨t.x * 1000.0 + xBias + 15.0, t.y * 1000.0 + yBias - 65.0,
    t.z * 1000.0 + zBias, -24.0, 18.0, -5.0⟩)

def storeObjectInPocket (poseConfig : PoseConfig F) (out : Outcomes F) : ArmM F Unit := do
  modify fun s => { s with objectState := .held }
  let some _ ← movePoseFromConfig poseConfig out .storeApproach "put_in_pocket"
    (some "approach") | return
  let _ ← movePoseFromConfig poseConfig out .storeApproachAgain "put_in_pocket" (some "approach")
  let some dropEntry ← movePoseFromConfig poseConfig out .storeDrop "put_in_pocket"
    (some "drop") | return
  commandGripperIfUnset out 0 dropEntry 1000
  let _ ← movePoseFromConfig poseConfig out .storeRetreat "put_in_pocket" (some "retreat")
  modify fun s => { s with objectState := .stowed }
  modify fun s => { s with operatePose := none }

def retrieveObjectFromPocket (poseConfig : PoseConfig F) (out : Outcomes F) : ArmM F Unit := do
  let some approachEntry ← movePoseFromConfig poseConfig out .retrieveApproach "out_of_pocket"
    (some "approach") | return
  commandGripperIfUnset out 0 approachEntry 1000
  let some graspEntry ← movePoseFromConfig poseConfig out .retrieveGrasp "out_of_pocket"
    (some "grasp") | return
  commandGripperIfUnset out 1 graspEntry 0
  let _ ← movePoseFromConfig poseConfig out .retrieveRetreat "out_of_pocket" (some "retreat")
  modify fun s => { s with objectState := .held }
  let _ ← goToTableReadyPose poseConfig out

/-! ## Calls -/

inductive Call (F : Type) where
  | graspObj (xBias yBias zBias : F)
  | resetGraspPose (xBias yBias zBias : F)
  | placeAtFixedHeight (height : F)
  | storeObjectInPocket
  | retrieveObjectFromPocket
  | pressButton (xBias yBias zBias : F)
  | pressButtonUp (xBias yBias zBias : F)

def perform (poseConfig : PoseConfig F) (out : Outcomes F) : Call F → ArmM F Unit
  | .graspObj xBias yBias zBias => graspObj out xBias yBias zBias
  | .resetGraspPose xBias yBias zBias => resetGraspPose out xBias yBias zBias
  | .placeAtFixedHeight height => do
      let _ ← placeAtFixedHeight out height
  | .storeObjectInPocket => storeObjectInPocket poseConfig out
  | .retrieveObjectFromPocket => retrieveObjectFromPocket poseConfig out
  | .pressButton xBias yBias zBias => pressButton out xBias yBias zBias
  | .pressButtonUp xBias yBias zBias => pressButtonUp out xBias yBias zBias

/-- Completed calls, the latest first, each with the state it was made in, and all
states so far.  Between calls the callbacks store whatever has been detected. -/
inductive Run (poseConfig : PoseConfig F) :
    List (Arm F × Call F × Outcomes F) → List (Arm F) → Arm F → Prop
  | init : Run poseConfig [] [Arm.init] Arm.init
  | detect {calls : List (Arm F × Call F × Outcomes F)} {states : List (Arm F)} {s : Arm F}
      (h : Run poseConfig calls states s) (objPose buttonPose cardPose : Option (Translation F)) :
      Run poseConfig calls
        ({ s with objPose := objPose, buttonPose := buttonPose, cardPose := cardPose } :: states)
        { s with objPose := objPose, buttonPose := buttonPose, cardPose := cardPose }
  | call {calls : List (Arm F × Call F × Outcomes F)} {states : List (Arm F)} {s s' : Arm F}
      (h : Run poseConfig calls states s) (c : Call F) (out : Outcomes F)
      (hrun : (perform poseConfig out c).run.run s = (.ok (), s')) :
      Run poseConfig ((s, c, out) :: calls) (s' :: states) s'

end Operations

end Model

end Ros2WsDemo.MobileManipulator

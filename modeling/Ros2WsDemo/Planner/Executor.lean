import Ros2WsDemo.Lib.JsonLoads
import Ros2WsDemo.Planner.Robot

/-!
# From an instruction to operations

The request to the planner, the decoding of its answer and the loop over the
actions.  What the client library answers to each attempt is an input, as are the
console and the log, which may refuse a text they cannot encode.  Lines of fixed
text and the wording of the prompt are left out.
-/

namespace Ros2WsDemo.Planner

open Python
open MobileManipulator (obsJoint)

/-! ## Skills -/

structure Skill (F : Type) where
  id : Str
  pose : Option (GeoPose F)
  operation : Option Str
  height : Option F

section Skills

variable {F : Type} [Arithmetic F]

def navigateSkill (id : Str) (x y oz ow : F) : Skill F :=
  ⟨id, some ⟨⟨x, y, 0.0⟩, ⟨0.0, 0.0, oz, ow⟩⟩, none, none⟩

def pickSkill (id : Str) : Skill F := ⟨id, none, some "pick", none⟩

def placeSkill (id : Str) (height : F) : Skill F := ⟨id, none, some "place", some height⟩

def skills : List (Skill F) :=
  [navigateSkill "yellow_table_nav" (-1.879) (-1.178) 0.703 0.711,
    pickSkill "yellow_table_pick",
    pickSkill "white_table_pick",
    navigateSkill "white_table_nav" 0.242 (-2.133) 0.728 0.685,
    placeSkill "white_table_place" 0.75,
    placeSkill "yellow_table_place" 0.73,
    placeSkill "pool_place" 0.71,
    navigateSkill "pool_nav" (-3.929) 2.864 (-0.691) 0.723,
    placeSkill "podium_place" 0.733,
    navigateSkill "podium_nav" 0.052 3.236 (-0.711) 0.703]

/-- `skills_map.get(key)`, which raises for a key that cannot be hashed. -/
def skillsMap (key : Value F) : Except Exn (Option (Skill F)) :=
  match key with
  | .str id => .ok (skills.find? fun s => s.id == id)
  | key => if key.hashable then .ok none else .error .typeError

end Skills

/-! ## Poses in a plan -/

section Poses

variable {F : Type} [Arithmetic F] (msgs : Messages F)

/-- The items of what counts as a `Sequence`. -/
def sequenceItems : Value F → Option (List (Value F))
  | .list xs => some xs
  | .str s => some (s.map fun c => .str [c])
  | _ => none

def poseOfDict (entries : List (Str × Value F)) : Except Exn (Option (GeoPose F)) :=
  let pos := (entries.lookup (Str.ofString "position")).getD (.dict [])
  let ori := (entries.lookup (Str.ofString "orientation")).getD (.dict [])
  orNone do
    let position ← msgs.point (← (← pos.getOr "x" (.float 0.0)).toFloat)
      (← (← pos.getOr "y" (.float 0.0)).toFloat) (← (← pos.getOr "z" (.float 0.0)).toFloat)
    let orientation ← msgs.quaternion (← (← ori.getOr "x" (.float 0.0)).toFloat)
      (← (← ori.getOr "y" (.float 0.0)).toFloat) (← (← ori.getOr "z" (.float 0.0)).toFloat)
      (← (← ori.getOr "w" (.float 1.0)).toFloat)
    return ⟨position, orientation⟩

def poseOfItems : List (Value F) → Except Exn (Option (GeoPose F))
  | [x, y, z, ox, oy, oz, ow] => orNone do
      let position ← msgs.point (← x.toFloat) (← y.toFloat) (← z.toFloat)
      let orientation ← msgs.quaternion (← ox.toFloat) (← oy.toFloat) (← oz.toFloat)
        (← ow.toFloat)
      return ⟨position, orientation⟩
  | _ => .ok none

/-- A value decoded from JSON is never a pose message itself. -/
def normalizePoseInput (poseData : Value F) : Except Exn (Option (GeoPose F)) :=
  match poseData with
  | .dict entries =>
      match _h : entries.lookup (Str.ofString "pose") with
      | some inner => normalizePoseInput inner
      | none => poseOfDict msgs entries
  | poseData => ((sequenceItems poseData).elim (.ok none) (poseOfItems msgs))
  termination_by sizeOf poseData
  decreasing_by exact sizeOf_lookup_lt (by assumption)

end Poses

/-! ## The request -/

/-- `create(…)` gives nothing, or the contents of the choices. -/
abbrev Completion := Option (List (Option Str))

/-- The console and the log, and `str(exc)` as it is written there. -/
structure Console where
  text : Exn → Str
  print : Str → Except Exn Unit
  echoInfo : Str → Except Exn Unit
  warn : Str → Except Exn Unit
  error : Str → Except Exn Unit

section Request

variable (F : Type) [Builtins F] (console : Console)

def networkErrorKeywords : List Str :=
  ["network", "timeout", "connection", "temporarily unavailable"]

def maxAttempts : ℕ := 3

/-- `keyword in text` -/
def isIn (keyword text : Str) : Bool := text.tails.any fun t => keyword.isPrefixOf t

/-- The attempts from number `attempt` on, `left` of them; an attempt raises an
exception with a text, or it returns. -/
def requestCompletion (create : ℕ → Except Str Completion) : ℕ → ℕ → Except Exn Completion
  | 0, _ => .ok none
  | left + 1, attempt =>
      match create attempt with
      | .ok completion => .ok completion
      | .error text =>
          let errorText := Builtins.lower F text
          if networkErrorKeywords.any fun keyword => isIn keyword errorText then do
            console.warn ("OpenAI request network issue (attempt " ++ Str.ofInt attempt ++ "/" ++
              Str.ofInt maxAttempts ++ "): " ++ text)
            if attempt < maxAttempts then
              requestCompletion create left (attempt + 1)
            else
              .error (.other text)
          else .error (.other text)

/-- `chat_completion.choices[0].message.content` -/
def completionText : Completion → Except Exn (Option Str)
  | none => .error (.runtimeError "OpenAI request failed without response.")
  | some [] => .error .indexError
  | some (content :: _) => .ok content

/-- The first `try` of `_call_openai_planner`. -/
def requestText (create : ℕ → Except Str Completion) : Except Exn (Option Str) := do
  let completion ← requestCompletion F console create maxAttempts 1
  let text ← completionText completion
  console.print (text.getD "None")
  return text

/-- The text from the first opening to the last closing brace, if there are both. -/
def jsonText (text : Str) : Str :=
  let text := text.strip
  match text.find 123, text.rfind 125 with
  | some start, some stop => text.slice start (stop + 1)
  | _, _ => text

variable {F}

def decodeAnswer (limit : ℕ) (text : Str) : Except Exn (Value F) :=
  match Json.loads limit (jsonText text) with
  | .ok plan => .ok plan
  | .error e =>
      if e.isJsonDecodeError then do
        console.error ("Planner output is not JSON: " ++ console.text e)
        console.error (jsonText text)
        return .none
      else .error e

/-- The plan, or `None`. -/
def callOpenaiPlanner (limit : ℕ) (create : ℕ → Except Str Completion) : Except Exn (Value F) :=
  match requestText F console create with
  | .error e => do
      console.error ("OpenAI call failed: " ++ console.text e)
      return .none
  | .ok none => .error .attributeError
  | .ok (some text) => decodeAnswer console limit text

end Request

/-! ## Actions -/

/-- What an action asks of the robot. -/
inductive Operation (F : Type) where
  | navigate (pose : Option (GeoPose F))
  | pick
  | place (height : F)

section Actions

variable {F : Type} [Arithmetic F] (console : Console) (msgs : Messages F)

/-- The pose of the skill that a target names, if it names one. -/
def skillPose (target : Value F) : Except Exn (Option (GeoPose F)) :=
  if target.truthy then (skillsMap target).map fun skill => skill.bind Skill.pose else .ok none

def navigatePose (action target : Value F) : Except Exn (Option (GeoPose F)) := do
  match ← skillPose target with
  | some pose => return some pose
  | none => normalizePoseInput msgs (← action.get "pose")

def operationOf (action : Value F) (skill : Option (Skill F)) : Except Exn Str := do
  let operation ← action.get "operation"
  let default : Str := (skill.bind Skill.operation).getD "pick"
  return Builtins.lower F (operation.orElse (.str default)).toStr

def heightOf (action : Value F) (skill : Option (Skill F)) : Except Exn F := do
  match ← action.get "height" with
  | .none => return (skill.bind Skill.height).getD 0.75
  | height => height.toFloat

def actionType (action : Value F) : Except Exn Str := do
  return Builtins.lower F ((← action.get "type").orElse (.str "")).toStr

/-- What the loop does with an action before it turns to the robot.  There is no
operation for a type or an operation that is not known. -/
def request (idx : ℕ) (action : Value F) : Except Exn (Option (Operation F)) := do
  let actionType ← actionType action
  let targetId ← action.get "target"
  console.echoInfo ("GPT step " ++ Str.ofInt idx ++ ": " ++ action.toStr)
  if actionType = "navigate" then
    return some (.navigate (← navigatePose msgs action targetId))
  else if actionType = "manipulate" then
    let skill ← skillsMap (targetId.orElse (.str ""))
    let operation ← operationOf action skill
    let height ← heightOf action skill
    if operation = "pick" ∨ operation = "grasp" then
      return some .pick
    else if operation = "place" ∨ operation = "drop" then
      return some (.place height)
    else
      console.error ("Unknown manipulation op \"" ++ operation ++ "\"")
      return none
  else
    console.error ("Unknown action type \"" ++ actionType ++ "\"")
    return none

variable {W : Type} (robot : Robot F W)

/-- Whether the loop goes on after an operation. -/
def perform : Operation F → ExecM F W Bool
  | .navigate pose => do
      let _ ← navigateToWaypoint robot pose
      return true
  | .pick => do
      command (robot.moveJ obsJoint)
      performPickSequence robot
  | .place height => performPlaceSequence robot height

/-- The loop over the actions, from number `idx` on. -/
def executeActions : ℕ → List (Value F) → ExecM F W Bool
  | _, [] => return true
  | idx, action :: rest => do
      match ← ofExcept (request console msgs idx action) with
      | none => return false
      | some operation =>
          if ← perform robot operation then
            executeActions (idx + 1) rest
          else
            return false

def executePlan (plan : Value F) : ExecM F W Bool := do
  if !plan.truthy then
    return false
  ofExcept (console.print plan.toStr)
  let actions ← ofExcept (plan.get "actions")
  let steps ← ofExcept (plan.get "steps")
  match actions.orElse steps with
  | .list actions => executeActions console msgs robot 1 actions
  | _ => return false

def executeInstructionWithGpt (limit : ℕ) (create : ℕ → Except Str Completion) :
    ExecM F W Bool := do
  let plan ← ofExcept (callOpenaiPlanner console limit create)
  executePlan console msgs robot plan

end Actions

end Ros2WsDemo.Planner

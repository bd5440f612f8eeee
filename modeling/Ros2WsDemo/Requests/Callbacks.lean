import Ros2WsDemo.Lib.Prog
import Ros2WsDemo.Requests.Messages

/-!
# The callbacks of the request topics

Each callback converts its message and makes one call of the platform; only cancelling an
action takes two.  A wrapper checks the connection and catches what the callback throws.
The robot is a parameter: any deterministic machine, its failures included.
-/

namespace Ros2WsDemo.Requests

open Effect

/-! ## Operations -/

inductive Op (Flt Dbl Scan : Type) where
  | safeGetSlamwarePlatform
  | call (c : RobotCall Flt Dbl Scan)
  | requestSyncMap
  | rclcppError (format : String)

variable {Flt Dbl Scan ρ : Type}

def Ret : Op Flt Dbl Scan → Type
  | .safeGetSlamwarePlatform => Bool
  | .call c => Except Exn c.Reply
  | .requestSyncMap => Unit
  | .rclcppError _ => Unit

structure Robot (Flt Dbl Scan ρ : Type) where
  connected : ρ → Bool × ρ
  call : (c : RobotCall Flt Dbl Scan) → ρ → Except Exn c.Reply × ρ

structure State (ρ : Type) where
  syncMapRequested : Bool
  robot : ρ

def handler (R : Robot Flt Dbl Scan ρ) : (o : Op Flt Dbl Scan) → State ρ → Ret o × State ρ
  | .safeGetSlamwarePlatform, s =>
      ((R.connected s.robot).1, { s with robot := (R.connected s.robot).2 })
  | .call c, s => ((R.call c s.robot).1, { s with robot := (R.call c s.robot).2 })
  | .requestSyncMap, s => ((), { s with syncMapRequested := true })
  | .rclcppError _, s => ((), s)

abbrev CallbackM (Flt Dbl Scan : Type) := Prog (@Ret Flt Dbl Scan) Exn

def perform (o : Op Flt Dbl Scan) : CallbackM Flt Dbl Scan (Ret o) := Prog.perform o

def call (c : RobotCall Flt Dbl Scan) : CallbackM Flt Dbl Scan c.Reply :=
  perform (.call c) >>= fun r : Except Exn c.Reply => ofExcept r

def rclcppError (format : String) : CallbackM Flt Dbl Scan Unit := perform (.rclcppError format)

/-! ## The callbacks -/

section Callbacks

variable [Zero Flt] [Zero Dbl] [Inhabited Dbl] (sdk : Sdk Flt Dbl Scan)

def msgCbMoveToGoal (msg : PoseMsg Dbl) : CallbackM Flt Dbl Scan Unit :=
  let tLoc : Location Dbl := ⟨msg.position.x, msg.position.y, 0⟩
  let fYaw := sdk.getYaw msg.orientation
  let optMove := { sdk.newMoveOptions with
    flag := MoveOptions.milestone ||| MoveOptions.precise ||| MoveOptions.withYaw
    yaw := some (sdk.toDouble fYaw) }
  call (.moveTo tLoc optMove)

def msgCbSyncMap : CallbackM Flt Dbl Scan Unit := perform .requestSyncMap

def msgCbSetPose (msg : PoseMsg Dbl) : CallbackM Flt Dbl Scan Unit := do
  let robotPose ← ofExcept
    ((MsgConvert.pose sdk.rotation).toSltc msg ⟨⟨0, 0, 0⟩, ⟨0, 0, 0⟩⟩)
  call (.setPose robotPose)

def msgCbRecoverLocalization (msgArea : RectFlt32 Flt) (msgOptions : LocalizationOptions) :
    CallbackM Flt Dbl Scan Unit := do
  let area ← ofExcept (rectFlt32.toSltc msgArea ⟨0, 0, 0, 0⟩)
  let options ← ofExcept
    (MsgConvert.localizationOptions.toSltc msgOptions sdk.newRecoverLocalizationOptions)
  call (.recoverLocalization area options)

def msgCbClearMap (msgKind : MapKindMsg) : CallbackM Flt Dbl Scan Unit := do
  let kind ← ofExcept (mapKind.toSltc msgKind .exploreMap)
  call (.clearMap kind)

def msgCbSetMapUpdate (enabled : Bool) (msgKind : MapKindMsg) : CallbackM Flt Dbl Scan Unit := do
  let kind ← ofExcept (mapKind.toSltc msgKind .exploreMap)
  call (.setMapUpdate enabled kind)

def msgCbSetMapLocalization (enabled : Bool) : CallbackM Flt Dbl Scan Unit :=
  call (.setMapLocalization enabled)

def msgCbMoveByDirection (msgDirection : ActionDirectionMsg) (msgOptions : MoveOptionsMsg Dbl) :
    CallbackM Flt Dbl Scan Unit := do
  let tDir ← ofExcept (actionDirection.toSltc msgDirection .forward)
  let tOpts ← ofExcept (moveOptions.toSltc msgOptions sdk.newMoveOptions)
  call (.moveByDirection tDir tOpts)

def msgCbMoveByTheta (theta : Flt) (msgOptions : MoveOptionsMsg Dbl) :
    CallbackM Flt Dbl Scan Unit := do
  let tOpts ← ofExcept (moveOptions.toSltc msgOptions sdk.newMoveOptions)
  call (.moveByTheta theta tOpts)

/-- The mode that the two callbacks for targets choose. -/
def trackMode (tOpts : MoveOptions Dbl) : NavigationMode :=
  if sdk.hasFlag tOpts.flag MoveOptions.keyPoints then
    if sdk.hasFlag tOpts.flag MoveOptions.keyPointsWithOA then .priorityVirtualTrack
    else .strictVirtualTrack
  else tOpts.mode

def targetOptions (tOpts : MoveOptions Dbl) (yaw : Flt) : MoveOptions Dbl :=
  { tOpts with mode := trackMode sdk tOpts, yaw := some (sdk.toDouble yaw) }

def msgCbMoveTo (msgLocation : Location Dbl) (msgOptions : MoveOptionsMsg Dbl) (yaw : Flt) :
    CallbackM Flt Dbl Scan Unit := do
  let tLoc ← ofExcept (MsgConvert.location.toSltc msgLocation ⟨0, 0, 0⟩)
  let tOpts ← ofExcept (moveOptions.toSltc msgOptions sdk.newMoveOptions)
  call (.moveTo tLoc (targetOptions sdk tOpts yaw))

def msgCbMoveToLocations (msgLocations : List (Location Dbl)) (msgOptions : MoveOptionsMsg Dbl)
    (yaw : Flt) : CallbackM Flt Dbl Scan Unit := do
  let vLocs ← ofExcept ((MsgConvert.vector MsgConvert.location).toSltc msgLocations [])
  let tOpts ← ofExcept (moveOptions.toSltc msgOptions sdk.newMoveOptions)
  call (.moveToLocations vLocs (targetOptions sdk tOpts yaw))

/-- The options of the message are not converted. -/
def msgCbRotateTo (msgOrientation : QuaternionMsg Dbl) (_ : MoveOptionsMsg Dbl) :
    CallbackM Flt Dbl Scan Unit := do
  let orientation ← ofExcept (sdk.rotation.toSltc msgOrientation ⟨0, 0, 0⟩)
  call (.rotateTo orientation sdk.newRotateActionOptions)

def msgCbRotate (msgRotation : QuaternionMsg Dbl) (_ : MoveOptionsMsg Dbl) :
    CallbackM Flt Dbl Scan Unit := do
  let rotation ← ofExcept (sdk.rotation.toSltc msgRotation ⟨0, 0, 0⟩)
  call (.rotate rotation sdk.newRotateActionOptions)

def msgCbGoHome : CallbackM Flt Dbl Scan Unit := call .goHome

/-- An action that is empty is not cancelled. -/
def cancelAction : Option ℕ → CallbackM Flt Dbl Scan Unit
  | some tAct => call (.cancel tAct)
  | none => return

def msgCbCancelAction : CallbackM Flt Dbl Scan Unit := call .getCurrentAction >>= cancelAction

/-- The callbacks for lines convert the usage first. -/
def withUsage (msgUsage : ArtifactUsageMsg)
    (f : ArtifactUsage → CallbackM Flt Dbl Scan Unit) : CallbackM Flt Dbl Scan Unit := do
  let tUsage ← ofExcept (artifactUsage.toSltc msgUsage .virtualWall)
  f tUsage

def msgCbAddLine (usage : ArtifactUsageMsg) (msgLine : Line2DFlt32 Flt) :
    CallbackM Flt Dbl Scan Unit :=
  withUsage usage fun tUsage => do
    let tLine ← ofExcept (MsgConvert.line2DFlt32.toSltc msgLine default)
    call (.addLine tUsage tLine)

def msgCbAddLines (usage : ArtifactUsageMsg) (msgLines : List (Line2DFlt32 Flt)) :
    CallbackM Flt Dbl Scan Unit :=
  withUsage usage fun tUsage => do
    let vLines ← ofExcept ((MsgConvert.vector MsgConvert.line2DFlt32).toSltc msgLines [])
    call (.addLines tUsage vLines)

def msgCbRemoveLine (usage : ArtifactUsageMsg) (id : UInt32) : CallbackM Flt Dbl Scan Unit :=
  withUsage usage fun tUsage => call (.removeLineById tUsage id)

def msgCbClearLines (usage : ArtifactUsageMsg) : CallbackM Flt Dbl Scan Unit :=
  withUsage usage fun tUsage => call (.clearLines tUsage)

def msgCbMoveLine (usage : ArtifactUsageMsg) (msgLine : Line2DFlt32 Flt) :
    CallbackM Flt Dbl Scan Unit :=
  withUsage usage fun tUsage => do
    let tLine ← ofExcept (MsgConvert.line2DFlt32.toSltc msgLine default)
    call (.moveLine tUsage tLine)

def msgCbMoveLines (usage : ArtifactUsageMsg) (msgLines : List (Line2DFlt32 Flt)) :
    CallbackM Flt Dbl Scan Unit :=
  withUsage usage fun tUsage => do
    let vLines ← ofExcept ((MsgConvert.vector MsgConvert.line2DFlt32).toSltc msgLines [])
    call (.moveLines tUsage vLines)

/-- What the subscription of the topic calls. -/
def callback : Request Flt Dbl → CallbackM Flt Dbl Scan Unit
  | .moveToGoal msg => msgCbMoveToGoal sdk msg
  | .syncMap => msgCbSyncMap
  | .setPose msg => msgCbSetPose sdk msg
  | .recoverLocalization area options => msgCbRecoverLocalization sdk area options
  | .clearMap kind => msgCbClearMap kind
  | .setMapUpdate enabled kind => msgCbSetMapUpdate enabled kind
  | .setMapLocalization enabled => msgCbSetMapLocalization enabled
  | .moveByDirection direction options => msgCbMoveByDirection sdk direction options
  | .moveByTheta theta options => msgCbMoveByTheta sdk theta options
  | .moveTo location options yaw => msgCbMoveTo sdk location options yaw
  | .moveToLocations locations options yaw => msgCbMoveToLocations sdk locations options yaw
  | .rotateTo orientation options => msgCbRotateTo sdk orientation options
  | .rotate rotation options => msgCbRotate sdk rotation options
  | .goHome => msgCbGoHome
  | .cancelAction => msgCbCancelAction
  | .addLine usage line => msgCbAddLine usage line
  | .addLines usage lines => msgCbAddLines usage lines
  | .removeLine usage id => msgCbRemoveLine usage id
  | .clearLines usage => msgCbClearLines usage
  | .moveLine usage line => msgCbMoveLine usage line
  | .moveLines usage lines => msgCbMoveLines usage lines

def performIfConnected (mfpCbPerform : CallbackM Flt Dbl Scan Unit) :
    Bool → CallbackM Flt Dbl Scan Unit
  | false => rclcppError "process msgTopic: %s, not connected."
  | true =>
      Prog.tryCatch mfpCbPerform fun e =>
        if e.isStd then rclcppError "process msgTopic: %s, exception: %s."
        else if e.isFault then throw e
        else rclcppError "process msgTopic: %s, unknown exception."

def msgCbWrapperFun (mfpCbPerform : CallbackM Flt Dbl Scan Unit) : CallbackM Flt Dbl Scan Unit :=
  perform .safeGetSlamwarePlatform >>= performIfConnected mfpCbPerform

/-! ## Runs -/

/-- One message: its calls of the platform are recorded with everything else it did. -/
def handleRequest (R : Robot Flt Dbl Scan ρ) (request : Request Flt Dbl) (s : State ρ) :
    Except Exn Unit × State ρ × List ((o : Op Flt Dbl Scan) × Ret o) :=
  (msgCbWrapperFun (callback sdk request)).eval (Prog.logging (handler R)) (s, [])

/-- ROS runs one callback after the other. -/
def handleRequests (R : Robot Flt Dbl Scan ρ) : List (Request Flt Dbl) → State ρ →
    List (Except Exn Unit) × State ρ × List ((o : Op Flt Dbl Scan) × Ret o)
  | [], s => ([], s, [])
  | request :: requests, s =>
      let handled := handleRequest sdk R request s
      let rest := handleRequests R requests handled.2.1
      (handled.1 :: rest.1, rest.2.1, handled.2.2 ++ rest.2.2)

end Callbacks

end Ros2WsDemo.Requests

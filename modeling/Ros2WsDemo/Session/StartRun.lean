import Ros2WsDemo.Lib.ExceptState
import Ros2WsDemo.Session.WorkLoop

/-!
# Starting the server

`startRun` and `init_` with everything they touch: the members of the server, the
connection attempts, the entities created on the ROS node and the work thread.
The node `nh_` has no parameters of its own, so `params_.setBy(nh_)` changes
nothing.  The loop that connects runs for at most a given number of tries;
`none` means that these did not suffice.
-/

namespace Ros2WsDemo.StartRun

open ExceptState
open WorkLoop (WorkerKind)

/-! ## Parameters -/

/-- What is done with a period: `0 < fSec`, `fSec < 0.0f` and the conversion to
milliseconds.  Nothing is said about `NaN`. -/
class Seconds (F : Type) where
  isPositive : F → Bool
  isNegative : F → Bool
  isNegative_of_isPositive : ∀ fSec, isPositive fSec = true → isNegative fSec = false
  floorMillis : F → ℕ

structure ServerParams (F : Type) where
  ipAddress : String
  robotPort : ℤ
  odometryPubPeriod : F
  robotPosePubPeriod : F
  scanPubPeriod : F
  mapUpdatePeriod : F
  mapPubPeriod : F
  basicSensorsInfoUpdatePeriod : F
  basicSensorsValuesPubPeriod : F
  pathPubPeriod : F
  robotBasicStatePubPeriod : F
  virtualWallsPubPeriod : F
  virtualTracksPubPeriod : F
  imuRawDataPeriod : F
  scanTopic : String
  odomTopic : String
  robotPoseTopic : String
  mapTopic : String
  mapInfoTopic : String
  basicSensorsInfoTopic : String
  basicSensorsValuesTopic : String
  pathTopic : String
  velControlTopic : String
  goalTopic : String
  imuRawDataTopic : String
  imuRawMagDataTopic : String

/-! ## The server and its surroundings -/

inductive ServerState where
  | notInit
  | running
  | stopped
  deriving DecidableEq

inductive Entity where
  | publisher (topic : String)
  | subscription (msgTopic : String)
  | service (srvMsgTopic : String)
  deriving DecidableEq

structure ServerWorker where
  kind : WorkerKind
  workerName : String
  triggerInterval : ℕ

/-- `workThread` says whether the thread is joinable, `entities` what has been
created on the node. -/
structure Server where
  state : ServerState
  isStopRequested : Bool
  workDat : Bool
  slamwarePltfm : Option ℕ
  serverWorkers : List ServerWorker
  workThread : Bool
  entities : List Entity

/-- What the surroundings answer: whether a stop has been requested before a try,
whether the robot takes the connection, what the middleware creates after all it
has created before, and whether a thread can be started. -/
structure Environment where
  stopRequested : ℕ → Bool
  connect : ℕ → String → ℤ → Option ℕ
  create : List Entity → Entity → Except Exn Unit
  startThread : Except Exn Unit

abbrev ServerM := ExceptT Exn (StateT Server Option)

section Model

variable {F : Type} [Seconds F] (env : Environment) (params : ServerParams F)

def outOfTries {α : Type} : ServerM α := ExceptT.mk fun _ => none

def create (e : Entity) : ServerM Unit := do
  match env.create (← get).entities e with
  | .ok () => modify fun s => { s with entities := s.entities ++ [e] }
  | .error ex => throw ex

/-! ## Connecting -/

def loopTryConnectToSlamwarePlatform : ℕ → ℕ → ServerM Unit
  | 0, _ => outOfTries
  | tries + 1, tryCnt => do
      if (← get).isStopRequested || env.stopRequested tryCnt then
        return
      match env.connect tryCnt params.ipAddress params.robotPort with
      | some pltfm => modify fun s => { s with slamwarePltfm := some pltfm }
      | none => loopTryConnectToSlamwarePlatform tries (tryCnt + 1)

/-! ## Workers -/

def sfConvFloatSecToBoostMs (fSec : F) : Except Exn ℕ :=
  if Seconds.isNegative fSec then .error (.runtimeError "invalid float value of seconds.")
  else .ok (Seconds.floorMillis fSec)

/-- One block of the worker part of `init_`: the check around it, the interval it
passes and the topics the constructor of the worker publishes on. -/
structure WorkerInit where
  enabled : Bool
  kind : WorkerKind
  workerName : String
  triggerInterval : Except Exn ℕ
  topics : List String

def withInterval (kind : WorkerKind) (workerName : String) (triggerInterval : ℕ)
    (topics : List String) : WorkerInit :=
  ⟨true, kind, workerName, .ok triggerInterval, topics⟩

def withPeriod (kind : WorkerKind) (workerName : String) (period : F) (topics : List String) :
    WorkerInit :=
  ⟨true, kind, workerName, sfConvFloatSecToBoostMs period, topics⟩

def ifPositive (kind : WorkerKind) (workerName : String) (period : F) (topics : List String) :
    WorkerInit :=
  ⟨Seconds.isPositive period, kind, workerName, sfConvFloatSecToBoostMs period, topics⟩

def initWorker (w : WorkerInit) : ServerM Unit := do
  if w.enabled then
    let triggerInterval ← ofExcept w.triggerInterval
    w.topics.forM fun topic => create env (.publisher topic)
    modify fun s => { s with
      serverWorkers := s.serverWorkers ++ [⟨w.kind, w.workerName, triggerInterval⟩] }

def workerInits : List WorkerInit :=
  [withInterval .robotDeviceInfo "RobotDeviceInfo" 60000
      ["/slamware_ros_sdk_server_node/robot_device_info"],
    ifPositive .odometry "Odometry" params.odometryPubPeriod [params.odomTopic],
    ifPositive .robotPose "RobotPose" params.robotPosePubPeriod [params.robotPoseTopic],
    ifPositive .exploreMapUpdate "ExploreMapUpdate" params.mapUpdatePeriod [],
    ifPositive .exploreMapPublish "ExploreMapPublish" params.mapPubPeriod
      [params.mapTopic, params.mapInfoTopic],
    ifPositive .laserScan "LaserScan" params.scanPubPeriod [params.scanTopic],
    ifPositive .basicSensorsInfo "BasicSensorsInfo" params.basicSensorsInfoUpdatePeriod
      [params.basicSensorsInfoTopic],
    ifPositive .basicSensorsValues "BasicSensorsValues" params.basicSensorsValuesPubPeriod
      [params.basicSensorsValuesTopic],
    ifPositive .planPath "PlanPath" params.pathPubPeriod [params.pathTopic],
    ifPositive .robotBasicState "RobotBasicState" params.robotBasicStatePubPeriod
      ["/slamware_ros_sdk_server_node/robot_basic_state"],
    ifPositive .artifactLines "VirtualWalls" params.virtualWallsPubPeriod [],
    ifPositive .artifactLines "VirtualTracks" params.virtualTracksPubPeriod [],
    withPeriod .readEvents "ReadEvents" params.robotBasicStatePubPeriod [],
    withPeriod .imuRawData "ServerImuRawDataWorker" params.imuRawDataPeriod
      [params.imuRawDataTopic, params.imuRawMagDataTopic],
    withPeriod .rosConnect "RosConnectWorker" params.robotBasicStatePubPeriod
      ["/slamware_ros_sdk_server_node/state"]]

/-! ## Subscriptions and services -/

def msgTopics : List String :=
  [params.velControlTopic, "cmd_vel_no_limit", params.goalTopic,
    "/slamware_ros_sdk_server_node/sync_map", "/slamware_ros_sdk_server_node/set_pose",
    "/slamware_ros_sdk_server_node/recover_localization",
    "/slamware_ros_sdk_server_node/clear_map", "/slamware_ros_sdk_server_node/set_map_update",
    "/slamware_ros_sdk_server_node/set_map_localization",
    "/slamware_ros_sdk_server_node/move_by_direction",
    "/slamware_ros_sdk_server_node/move_by_theta", "/slamware_ros_sdk_server_node/move_to",
    "/slamware_ros_sdk_server_node/move_to_locations",
    "/slamware_ros_sdk_server_node/rotate_to", "/slamware_ros_sdk_server_node/rotate",
    "/slamware_ros_sdk_server_node/go_home", "/slamware_ros_sdk_server_node/cancel_action",
    "/slamware_ros_sdk_server_node/add_line", "/slamware_ros_sdk_server_node/add_lines",
    "/slamware_ros_sdk_server_node/remove_line", "/slamware_ros_sdk_server_node/clear_lines",
    "/slamware_ros_sdk_server_node/move_line", "/slamware_ros_sdk_server_node/move_lines"]

def srvMsgTopics : List String := ["sync_get_stcm", "sync_set_stcm"]

/-! ## Start and cleanup -/

/-- The blocks of `init_` after the connection: all workers, all subscriptions and
all services. -/
def initAll : ServerM Bool := do
  modify fun s => { s with serverWorkers := [] }
  (workerInits params).forM (initWorker env)
  (msgTopics params).forM fun msgTopic => create env (.subscription msgTopic)
  srvMsgTopics.forM fun srvMsgTopic => create env (.service srvMsgTopic)
  return true

def init (tries : ℕ) : ServerM Bool := do
  modify fun s => { s with workDat := true }
  if (← get).slamwarePltfm.isNone then
    loopTryConnectToSlamwarePlatform env params tries 1
  initAll env params

def requestStop : ServerM Unit := modify fun s => { s with isStopRequested := true }

/-- The work thread stores `stopped` before it ends. -/
def waitUntilStopped : ServerM Unit := do
  if (← get).workThread then
    modify fun s => { s with state := .stopped, workThread := false }

def cleanup : ServerM Unit := do
  if (← get).state = .running then
    requestStop
  waitUntilStopped
  modify fun s => { s with slamwarePltfm := none }
  modify fun s => { s with serverWorkers := [] }
  modify fun s => { s with workDat := false }
  modify fun s => { s with state := .notInit }

/-- The answer is what is returned and the error message. -/
def startRun (tries : ℕ) : ServerM (Bool × String) := do
  let oldState := (← get).state
  if oldState ≠ .notInit ∧ oldState ≠ .stopped then
    return (false, "it is running or already initialized.")
  modify fun s => { s with isStopRequested := false }
  let bRet ← init env params tries
  if bRet then
    modify fun s => { s with state := .running }
    ofExcept env.startThread
    modify fun s => { s with workThread := true }
  if !bRet then
    cleanup
  return (bRet, "")

/-! ## All or nothing -/

def Started (r : Except Exn (Bool × String)) (s' : Server) : Prop :=
  (∃ errMsg, r = .ok (true, errMsg)) ∧ s'.state = .running

/-- `false` or an exception, and nothing is left. -/
def FailedClean (r : Except Exn (Bool × String)) (s' : Server) : Prop :=
  (∀ errMsg, r ≠ .ok (true, errMsg)) ∧ s'.state = .notInit ∧ s'.serverWorkers = [] ∧
    s'.workDat = false ∧ s'.slamwarePltfm = none

/-- The start ends, and it has either succeeded or left nothing behind. -/
def AllOrNothing (s : Server) : Prop :=
  ∃ tries r s', (startRun env params tries).run.run s = some (r, s') ∧
    (Started r s' ∨ FailedClean r s')

/-! ## When a start succeeds -/

/-- Some try connects, or a stop is requested before one. -/
def ConnectEnds : Prop :=
  ∃ tryCnt, 1 ≤ tryCnt ∧ (env.stopRequested tryCnt = true ∨
    (env.connect tryCnt params.ipAddress params.robotPort).isSome)

/-- The middleware creates these entities one after the other. -/
def Granted : List Entity → List Entity → Prop
  | _, [] => True
  | created, e :: es => env.create created e = .ok () ∧ Granted (created ++ [e]) es

def WorkerInit.entities (w : WorkerInit) : List Entity :=
  if w.enabled then w.topics.map .publisher else []

/-- Everything a start creates for these parameters. -/
def startEntities : List Entity :=
  (workerInits params).flatMap WorkerInit.entities ++ (msgTopics params).map .subscription ++
    srvMsgTopics.map .service

/-- The two periods that are converted unchecked are not negative, and the
surroundings do their part. -/
structure CanStart (s : Server) : Prop where
  connects : s.slamwarePltfm.isSome ∨ ConnectEnds env params
  robotBasicStatePubPeriod : Seconds.isNegative params.robotBasicStatePubPeriod = false
  imuRawDataPeriod : Seconds.isNegative params.imuRawDataPeriod = false
  granted : Granted env s.entities (startEntities params)
  thread : env.startThread = .ok ()

theorem granted_append (created es es' : List Entity) :
    Granted env created (es ++ es') ↔
      Granted env created es ∧ Granted env (created ++ es) es' := by
  induction es generalizing created with
  | nil => simp [Granted]
  | cons e es ih =>
      simp only [List.cons_append, Granted]
      rw [ih]
      simp [and_assoc]

/-! ## Stages -/

/-- A part of `init_` that returns `a` exactly if `ok` holds and the entities it
asks for are granted, and throws otherwise.  The work data stay in either case. -/
def Stage {α : Type} (m : ServerM α) (a : α) (ok : Prop) (es : List Entity) : Prop :=
  ∀ s, s.workDat = true →
    (ok ∧ Granted env s.entities es → ∃ s', m.run.run s = some (.ok a, s') ∧
      s'.workDat = true ∧ s'.entities = s.entities ++ es) ∧
    (¬ (ok ∧ Granted env s.entities es) → ∃ e s', m.run.run s = some (.error e, s') ∧
      s'.workDat = true)

section Stages

variable {env params} {α β : Type} {a : α} {b : β} {m : ServerM α} {ok ok' : Prop}
  {es es' : List Entity}

theorem Stage.congr (h : Stage env m a ok es) (hok : ok ↔ ok') (hes : es = es') :
    Stage env m a ok' es' := by
  rwa [propext hok, hes] at h

theorem stage_pure (a : α) : Stage env (pure a) a True [] := by
  intro s hdat
  refine ⟨fun _ => ⟨s, rfl, hdat, (List.append_nil _).symm⟩, fun h => ?_⟩
  exact absurd ⟨trivial, trivial⟩ h

theorem stage_modify {f : Server → Server} (hdat : ∀ s, (f s).workDat = s.workDat)
    (hentities : ∀ s, (f s).entities = s.entities) : Stage env (modify f) () True [] := by
  intro s h
  refine ⟨fun _ => ⟨f s, rfl, (hdat s).trans h, ?_⟩, fun h => absurd ⟨trivial, trivial⟩ h⟩
  rw [hentities, List.append_nil]

theorem run_create (e : Entity) (s : Server) :
    (create env e).run.run s =
      match env.create s.entities e with
      | .ok () => some (.ok (), { s with entities := s.entities ++ [e] })
      | .error ex => some (.error ex, s) := by
  simp only [create, runT_bind, runT_get, pure_bind]
  cases env.create s.entities e <;> rfl

theorem stage_create (e : Entity) : Stage env (create env e) () True [e] := by
  intro s hdat
  simp only [run_create, Granted, and_true, true_and]
  cases h : env.create s.entities e with
  | ok u => exact ⟨fun _ => ⟨_, rfl, hdat, rfl⟩, fun hne => absurd rfl hne⟩
  | error ex => exact ⟨nofun, fun _ => ⟨ex, s, rfl, hdat⟩⟩

theorem Stage.seq {m' : ServerM β} (h : Stage env m a ok es) (h' : Stage env m' b ok' es') :
    Stage env (m >>= fun _ => m') b (ok ∧ ok') (es ++ es') := by
  intro s hdat
  rw [runT_bind, granted_append]
  by_cases hm : ok ∧ Granted env s.entities es
  · obtain ⟨s₁, hrun, hdat₁, hes⟩ := (h s hdat).1 hm
    simp only [hrun, Option.bind_eq_bind, Option.bind_some]
    constructor
    · rintro ⟨⟨-, hok'⟩, -, hgranted'⟩
      obtain ⟨s₂, hrun', hdat₂, hes'⟩ := (h' s₁ hdat₁).1 ⟨hok', by rwa [hes]⟩
      exact ⟨s₂, hrun', hdat₂, by rw [hes', hes, List.append_assoc]⟩
    · intro hnot
      refine (h' s₁ hdat₁).2 fun hm' => hnot ?_
      rw [hes] at hm'
      exact ⟨⟨hm.1, hm'.1⟩, hm.2, hm'.2⟩
  · obtain ⟨e, s₁, hrun, hdat₁⟩ := (h s hdat).2 hm
    simp only [hrun, Option.bind_eq_bind, Option.bind_some]
    exact ⟨fun hall => absurd ⟨hall.1.1, hall.2.1⟩ hm, fun _ => ⟨e, s₁, rfl, hdat₁⟩⟩

theorem stage_forM {ι : Type} {f : ι → ServerM Unit} {ok : ι → Prop} {es : ι → List Entity}
    (h : ∀ i, Stage env (f i) () (ok i) (es i)) (l : List ι) :
    Stage env (l.forM f) () (∀ i ∈ l, ok i) (l.flatMap es) := by
  induction l with
  | nil => exact (stage_pure ()).congr (by simp) rfl
  | cons i l ih => exact ((h i).seq ih).congr (by simp) List.flatMap_cons.symm

variable (env) in
/-- One creation for every topic. -/
theorem stage_createAll (f : String → Entity) (topics : List String) :
    Stage env (topics.forM fun topic => create env (f topic)) () True (topics.map f) :=
  (stage_forM (fun topic => stage_create (f topic)) topics).congr (by simp)
    List.map_eq_flatMap.symm

def WorkerInit.Convertible (w : WorkerInit) : Prop :=
  w.enabled = true → ∃ ms, w.triggerInterval = .ok ms

theorem stage_initWorker (w : WorkerInit) :
    Stage env (initWorker env w) () w.Convertible w.entities := by
  obtain ⟨enabled, kind, workerName, triggerInterval, topics⟩ := w
  cases enabled with
  | false => exact (stage_pure ()).congr (by simp [WorkerInit.Convertible]) rfl
  | true =>
      cases triggerInterval with
      | ok ms =>
          have hpush := (stage_createAll env .publisher topics).seq
            (stage_modify (f := fun s => { s with
              serverWorkers := s.serverWorkers ++ [⟨kind, workerName, ms⟩] })
              (fun _ => rfl) (fun _ => rfl))
          exact hpush.congr (by simp [WorkerInit.Convertible]) (List.append_nil _)
      | error e =>
          intro s hdat
          refine ⟨?_, fun _ => ⟨e, s, rfl, hdat⟩⟩
          rintro ⟨hok, -⟩
          obtain ⟨ms, hms⟩ := hok rfl
          cases hms

/-- Only the periods that are not checked to be positive can fail to convert. -/
theorem convertible_workerInits (params : ServerParams F) :
    (∀ w ∈ workerInits params, w.Convertible) ↔
      Seconds.isNegative params.robotBasicStatePubPeriod = false ∧
        Seconds.isNegative params.imuRawDataPeriod = false := by
  have hwithPeriod : ∀ kind workerName (period : F) topics,
      (withPeriod kind workerName period topics).Convertible ↔
        Seconds.isNegative period = false := by
    intro kind workerName period topics
    cases h : Seconds.isNegative period <;>
      simp [WorkerInit.Convertible, withPeriod, sfConvFloatSecToBoostMs, h]
  have hifPositive : ∀ kind workerName (period : F) topics,
      (ifPositive kind workerName period topics).Convertible := by
    intro kind workerName period topics hpos
    have hneg := Seconds.isNegative_of_isPositive period hpos
    exact ⟨Seconds.floorMillis period, by simp [ifPositive, sfConvFloatSecToBoostMs, hneg]⟩
  have hwithInterval : ∀ kind workerName ms topics,
      (withInterval kind workerName ms topics).Convertible :=
    fun _ _ ms _ _ => ⟨ms, rfl⟩
  simp only [workerInits, List.forall_mem_cons, hwithPeriod, hifPositive, hwithInterval, true_and,
    List.not_mem_nil, false_imp_iff, implies_true, and_true]
  tauto

/-! ## The connection -/

omit [Seconds F] in
/-- One try. -/
theorem run_loopTryConnect_succ (tries tryCnt : ℕ) (s : Server) :
    (loopTryConnectToSlamwarePlatform env params (tries + 1) tryCnt).run.run s =
      if s.isStopRequested || env.stopRequested tryCnt then some (.ok (), s)
      else match env.connect tryCnt params.ipAddress params.robotPort with
        | some pltfm => some (.ok (), { s with slamwarePltfm := some pltfm })
        | none =>
            (loopTryConnectToSlamwarePlatform env params tries (tryCnt + 1)).run.run s := by
  simp only [loopTryConnectToSlamwarePlatform, runT_bind, runT_get, pure_bind]
  split_ifs
  · rfl
  · cases env.connect tryCnt params.ipAddress params.robotPort <;> rfl

omit [Seconds F] in
theorem run_loopTryConnect {tries tryCnt : ℕ} {s s' : Server} {r : Except Exn Unit}
    (h : (loopTryConnectToSlamwarePlatform env params tries tryCnt).run.run s = some (r, s'))
    (hstop : s.isStopRequested = false) :
    r = .ok () ∧ s'.workDat = s.workDat ∧ s'.entities = s.entities ∧
      ∃ n, tryCnt ≤ n ∧ (env.stopRequested n = true ∨
        (env.connect n params.ipAddress params.robotPort).isSome) := by
  induction tries generalizing tryCnt with
  | zero => cases h
  | succ tries ih =>
      rw [run_loopTryConnect_succ, hstop, Bool.false_or] at h
      split_ifs at h with hreq
      · cases h
        exact ⟨rfl, rfl, rfl, tryCnt, le_rfl, Or.inl hreq⟩
      · cases hconnect : env.connect tryCnt params.ipAddress params.robotPort with
        | some pltfm =>
            rw [hconnect] at h
            cases h
            exact ⟨rfl, rfl, rfl, tryCnt, le_rfl, Or.inr (by rw [hconnect]; rfl)⟩
        | none =>
            rw [hconnect] at h
            obtain ⟨hr, hdat, hentities, n, hn, hends⟩ := ih h
            exact ⟨hr, hdat, hentities, n, Nat.le_of_succ_le hn, hends⟩

omit [Seconds F] in
theorem exists_run_loopTryConnect {tryCnt : ℕ} {s : Server} (k : ℕ)
    (hends : env.stopRequested (tryCnt + k) = true ∨
      (env.connect (tryCnt + k) params.ipAddress params.robotPort).isSome) :
    ∃ r s', (loopTryConnectToSlamwarePlatform env params (k + 1) tryCnt).run.run s =
      some (r, s') := by
  induction k generalizing tryCnt with
  | zero =>
      rw [run_loopTryConnect_succ]
      split_ifs with hstop
      · exact ⟨_, _, rfl⟩
      · cases hconnect : env.connect tryCnt params.ipAddress params.robotPort with
        | some pltfm => exact ⟨_, _, rfl⟩
        | none => simp_all
  | succ k ih =>
      rw [run_loopTryConnect_succ]
      split_ifs
      · exact ⟨_, _, rfl⟩
      · cases env.connect tryCnt params.ipAddress params.robotPort with
        | some pltfm => exact ⟨_, _, rfl⟩
        | none =>
            rw [← Nat.add_assoc, Nat.add_right_comm] at hends
            exact ih hends

omit [Seconds F] in
theorem run_loopTryConnect_mono {tries tries' tryCnt : ℕ} {s s' : Server} {r : Except Exn Unit}
    (hle : tries ≤ tries')
    (h : (loopTryConnectToSlamwarePlatform env params tries tryCnt).run.run s = some (r, s')) :
    (loopTryConnectToSlamwarePlatform env params tries' tryCnt).run.run s = some (r, s') := by
  induction tries generalizing tries' tryCnt with
  | zero => cases h
  | succ tries ih =>
      obtain ⟨more, rfl⟩ := Nat.exists_eq_add_of_le' hle
      rw [run_loopTryConnect_succ] at h
      rw [← Nat.add_assoc, run_loopTryConnect_succ]
      split_ifs at h ⊢
      · exact h
      · cases hconnect : env.connect tryCnt params.ipAddress params.robotPort with
        | some pltfm => rwa [hconnect] at h
        | none =>
            rw [hconnect] at h
            exact ih (Nat.le_add_left _ _) h

theorem stage_initAll (env : Environment) (params : ServerParams F) :
    Stage env (initAll env params) true
      (Seconds.isNegative params.robotBasicStatePubPeriod = false ∧
        Seconds.isNegative params.imuRawDataPeriod = false) (startEntities params) := by
  have hclear : Stage env (modify fun s => { s with serverWorkers := [] }) () True [] :=
    stage_modify (fun _ => rfl) (fun _ => rfl)
  have hservices := (stage_createAll env .service srvMsgTopics).seq (stage_pure true)
  have hsubscriptions := (stage_createAll env .subscription (msgTopics params)).seq hservices
  have hworkers := (stage_forM stage_initWorker (workerInits params)).seq hsubscriptions
  refine (hclear.seq hworkers).congr ?_ ?_
  · rw [convertible_workerInits]
    simp
  · simp [startEntities]

/-! ## Every start -/

theorem run_init_connected (tries : ℕ) {s : Server} {p : ℕ} (hp : s.slamwarePltfm = some p) :
    (init env params tries).run.run s =
      (initAll env params).run.run { s with workDat := true } := by
  simp only [init, runT_bind, runT_modify, runT_get, pure_bind, hp, Option.isNone_some,
    Bool.false_eq_true, if_false]

theorem run_init_notConnected (tries : ℕ) {s : Server} (hp : s.slamwarePltfm = none) :
    (init env params tries).run.run s =
      ((loopTryConnectToSlamwarePlatform env params tries 1 >>= fun _ =>
        initAll env params).run.run { s with workDat := true }) := by
  simp only [init, runT_bind, runT_modify, runT_get, pure_bind, hp, Option.isNone_none, if_true]

/-- The conditions on what follows the connection. -/
def InitAllOk (env : Environment) (params : ServerParams F) (entities : List Entity) : Prop :=
  (Seconds.isNegative params.robotBasicStatePubPeriod = false ∧
    Seconds.isNegative params.imuRawDataPeriod = false) ∧
  Granted env entities (startEntities params)

/-- What `init_` has done when it ends. -/
def InitEnds (env : Environment) (params : ServerParams F) (entities : List Entity)
    (r : Except Exn Bool) (s' : Server) : Prop :=
  s'.workDat = true ∧
    (InitAllOk env params entities ∧ r = .ok true ∨
      ¬ InitAllOk env params entities ∧ ∃ e, r = .error e)

variable (env params) in
theorem run_initAll {s : Server} (hdat : s.workDat = true) :
    ∃ r s', (initAll env params).run.run s = some (r, s') ∧
      InitEnds env params s.entities r s' := by
  by_cases hok : InitAllOk env params s.entities
  · obtain ⟨s', hrun, hdat', -⟩ := (stage_initAll env params s hdat).1 hok
    exact ⟨_, s', hrun, hdat', Or.inl ⟨hok, rfl⟩⟩
  · obtain ⟨e, s', hrun, hdat'⟩ := (stage_initAll env params s hdat).2 hok
    exact ⟨_, s', hrun, hdat', Or.inr ⟨hok, e, rfl⟩⟩

theorem run_init {tries : ℕ} {s s' : Server} {r : Except Exn Bool}
    (h : (init env params tries).run.run s = some (r, s')) (hstop : s.isStopRequested = false) :
    (s.slamwarePltfm.isSome ∨ ConnectEnds env params) ∧ InitEnds env params s.entities r s' := by
  cases hp : s.slamwarePltfm with
  | some p =>
      rw [run_init_connected tries hp] at h
      obtain ⟨r₁, s₁, hrun, hends⟩ := run_initAll env params
        (s := { s with workDat := true }) rfl
      rw [h] at hrun
      cases hrun
      exact ⟨Or.inl rfl, hends⟩
  | none =>
      rw [run_init_notConnected tries hp, runT_bind] at h
      cases hloop : (loopTryConnectToSlamwarePlatform env params tries 1).run.run
          { s with workDat := true } with
      | none => rw [hloop] at h; cases h
      | some x =>
          obtain ⟨r₁, s₁⟩ := x
          obtain ⟨rfl, hdat, hentities, hconnect⟩ := run_loopTryConnect hloop hstop
          simp only [hloop, Option.bind_eq_bind, Option.bind_some] at h
          obtain ⟨r₂, s₂, hrun, hends⟩ := run_initAll env params hdat
          rw [h] at hrun
          cases hrun
          rw [hentities] at hends
          exact ⟨Or.inr hconnect, hends⟩

theorem run_init_mono {tries tries' : ℕ} {s s' : Server} {r : Except Exn Bool}
    (hle : tries ≤ tries') (h : (init env params tries).run.run s = some (r, s')) :
    (init env params tries').run.run s = some (r, s') := by
  cases hp : s.slamwarePltfm with
  | some p => rwa [run_init_connected _ hp] at h ⊢
  | none =>
      rw [run_init_notConnected _ hp, runT_bind] at h ⊢
      cases hloop : (loopTryConnectToSlamwarePlatform env params tries 1).run.run
          { s with workDat := true } with
      | none => rw [hloop] at h; cases h
      | some x => rwa [hloop, ← run_loopTryConnect_mono hle hloop] at h

theorem exists_run_init {s : Server}
    (hconnects : s.slamwarePltfm.isSome ∨ ConnectEnds env params)
    (hstop : s.isStopRequested = false) :
    ∃ tries r s', (init env params tries).run.run s = some (r, s') := by
  cases hp : s.slamwarePltfm with
  | some p =>
      obtain ⟨r, s', hrun, -⟩ := run_initAll env params
        (s := { s with workDat := true }) rfl
      exact ⟨0, r, s', by rw [run_init_connected 0 hp, hrun]⟩
  | none =>
      rw [hp] at hconnects
      obtain ⟨n, hn, hends⟩ := hconnects.resolve_left (by simp)
      obtain ⟨k, rfl⟩ := Nat.exists_eq_add_of_le hn
      obtain ⟨r, s₁, hloop⟩ := exists_run_loopTryConnect (s := { s with workDat := true }) k hends
      obtain ⟨rfl, hdat, -⟩ := run_loopTryConnect hloop hstop
      obtain ⟨r₂, s₂, hrun, -⟩ := run_initAll env params hdat
      refine ⟨k + 1, r₂, s₂, ?_⟩
      rw [run_init_notConnected _ hp, runT_bind, hloop]
      exact hrun

theorem run_startRun_initOk {tries : ℕ} {s s' : Server} (hs : s.state = .notInit)
    (h : (init env params tries).run.run { s with isStopRequested := false } =
      some (.ok true, s')) :
    (startRun env params tries).run.run s =
      match env.startThread with
      | .ok () => some (.ok (true, ""), { s' with state := .running, workThread := true })
      | .error e => some (.error e, { s' with state := .running }) := by
  rw [hs] at h
  simp only [startRun, runT_bind, runT_get, pure_bind, hs, ne_eq, not_true_eq_false, false_and,
    if_false, runT_modify, h, if_true, Option.bind_eq_bind, Option.bind_some]
  cases env.startThread <;> rfl

theorem run_startRun_initThrows {tries : ℕ} {s s' : Server} {e : Exn} (hs : s.state = .notInit)
    (h : (init env params tries).run.run { s with isStopRequested := false } =
      some (.error e, s')) :
    (startRun env params tries).run.run s = some (.error e, s') := by
  rw [hs] at h
  simp only [startRun, runT_bind, runT_get, hs, ne_eq, not_true_eq_false, false_and, if_false,
    runT_modify, h, Option.bind_eq_bind, Option.bind_some, Option.pure_def]

theorem run_startRun_none {tries : ℕ} {s : Server} (hs : s.state = .notInit)
    (h : (init env params tries).run.run { s with isStopRequested := false } = none) :
    (startRun env params tries).run.run s = none := by
  rw [hs] at h
  simp only [startRun, runT_bind, runT_get, pure_bind, hs, ne_eq, not_true_eq_false, false_and,
    if_false, runT_modify, h, Option.bind_eq_bind, Option.bind_none]

/-- More tries do not change how a start ends. -/
theorem run_startRun_mono {tries tries' : ℕ} {s s' : Server} {r : Except Exn (Bool × String)}
    (hs : s.state = .notInit) (hle : tries ≤ tries')
    (h : (startRun env params tries).run.run s = some (r, s')) :
    (startRun env params tries').run.run s = some (r, s') := by
  cases hinit : (init env params tries).run.run { s with isStopRequested := false } with
  | none =>
      rw [run_startRun_none hs hinit] at h
      cases h
  | some x =>
      obtain ⟨r₁, s₁⟩ := x
      have hinit' := run_init_mono hle hinit
      obtain ⟨-, -, ⟨-, rfl⟩ | ⟨-, e, rfl⟩⟩ := run_init hinit rfl
      · rw [run_startRun_initOk hs hinit']
        rwa [run_startRun_initOk hs hinit] at h
      · rw [run_startRun_initThrows hs hinit']
        rwa [run_startRun_initThrows hs hinit] at h

theorem AllOrNothing.canStart {s : Server} (h : AllOrNothing env params s)
    (hs : s.state = .notInit) : CanStart env params s := by
  obtain ⟨tries, r, s', hrun, hor⟩ := h
  cases hinit : (init env params tries).run.run { s with isStopRequested := false } with
  | none =>
      rw [run_startRun_none hs hinit] at hrun
      cases hrun
  | some x =>
      obtain ⟨r₁, s₁⟩ := x
      obtain ⟨hconnects, hdat, ⟨hok, rfl⟩ | ⟨-, e, rfl⟩⟩ := run_init hinit rfl
      · rw [run_startRun_initOk hs hinit] at hrun
        cases hthread : env.startThread with
        | ok u => exact ⟨hconnects, hok.1.1, hok.1.2, hok.2, hthread⟩
        | error e =>
            -- the state has been stored before the thread is created
            rw [hthread] at hrun
            cases hrun
            rcases hor with ⟨⟨errMsg, h⟩, -⟩ | ⟨-, h, -⟩
            · cases h
            · cases h
      · -- the exception leaves `startRun` past `cleanup_`, with the work data in place
        rw [run_startRun_initThrows hs hinit] at hrun
        cases hrun
        rcases hor with ⟨⟨errMsg, h⟩, -⟩ | ⟨-, -, -, h, -⟩
        · cases h
        · rw [hdat] at h
          cases h

theorem CanStart.allOrNothing {s : Server} (h : CanStart env params s) (hs : s.state = .notInit) :
    AllOrNothing env params s := by
  obtain ⟨tries, r, s', hinit⟩ := exists_run_init (s := { s with isStopRequested := false })
    h.connects rfl
  obtain ⟨-, -, ⟨-, rfl⟩ | ⟨hnot, -⟩⟩ := run_init hinit rfl
  · have hrun := run_startRun_initOk hs hinit
    rw [h.thread] at hrun
    exact ⟨tries, _, _, hrun, Or.inl ⟨⟨"", rfl⟩, rfl⟩⟩
  · exact absurd ⟨⟨h.robotBasicStatePubPeriod, h.imuRawDataPeriod⟩, h.granted⟩ hnot

end Stages

end Model

/-! ## A negative period -/

/-- Periods in milliseconds. -/
instance : Seconds ℤ where
  isPositive ms := decide (0 < ms)
  isNegative ms := decide (ms < 0)
  isNegative_of_isPositive ms := by
    simp only [decide_eq_true_eq, decide_eq_false_iff_not]
    omega
  floorMillis ms := ms.toNat

/-- The default parameters but for the period of the IMU data. -/
def defaultParams (imuRawDataPeriod : ℤ) : ServerParams ℤ where
  ipAddress := "192.168.11.1"
  robotPort := 1445
  odometryPubPeriod := 50
  robotPosePubPeriod := 50
  scanPubPeriod := 100
  mapUpdatePeriod := 200
  mapPubPeriod := 200
  basicSensorsInfoUpdatePeriod := 7000
  basicSensorsValuesPubPeriod := 50
  pathPubPeriod := 50
  robotBasicStatePubPeriod := 1000
  virtualWallsPubPeriod := 500
  virtualTracksPubPeriod := 500
  imuRawDataPeriod := imuRawDataPeriod
  scanTopic := "/slamware_ros_sdk_server_node/scan"
  odomTopic := "/slamware_ros_sdk_server_node/odom"
  robotPoseTopic := "/slamware_ros_sdk_server_node/robot_pose"
  mapTopic := "/slamware_ros_sdk_server_node/map"
  mapInfoTopic := "/slamware_ros_sdk_server_node/map_metadata"
  basicSensorsInfoTopic := "/slamware_ros_sdk_server_node/basic_sensors_info"
  basicSensorsValuesTopic := "/slamware_ros_sdk_server_node/basic_sensors_values"
  pathTopic := "/slamware_ros_sdk_server_node/global_plan_path"
  velControlTopic := "/cmd_vel"
  goalTopic := "/move_base_simple/goal"
  imuRawDataTopic := "/slamware_ros_sdk_server_node/imu_raw_data"
  imuRawMagDataTopic := "/slamware_ros_sdk_server_node/imu_raw_mag_data"

/-- A robot that takes the first connection and a middleware without failures. -/
def willing : Environment where
  stopRequested _ := false
  connect _ _ _ := some 0
  create _ _ := .ok ()
  startThread := .ok ()

def constructed : Server := ⟨.notInit, false, false, none, [], false, []⟩

theorem granted_willing (created es : List Entity) : Granted willing created es := by
  induction es generalizing created with
  | nil => trivial
  | cons e es ih => exact ⟨rfl, ih _⟩

end Ros2WsDemo.StartRun

import Ros2WsDemo.Lib.ExceptState
import Ros2WsDemo.Requests.Served
import Mathlib.Logic.Function.Basic

/-!
# Lines that come back

Messages add lines to the robot, move them and remove them; two workers publish the walls and
the tracks the robot has.  Whoever listens sees what the messages have led to, and of the right
kind, although messages, sessions and failures of the robot may come in any order.
-/

namespace Ros2WsDemo.Requests

open ExceptState

variable {Flt Dbl Scan ρ : Type}

/-! ## The workers -/

namespace ServerArtifactLinesWorker

structure Params where
  usage : ArtifactUsageMsg
  topic : String

/-- The publisher is known by its topic. -/
structure Members where
  sltcUsage : ArtifactUsage
  isFeatureSupported : Bool
  isWorkLoopInitOk : Bool
  pubArtifactLines : Option String

/-- A worker with the robot and what has been published so far. -/
structure Turn (Flt ρ : Type) where
  members : Members
  robot : ρ
  published : List (String × List (Line2DFlt32 Flt))

abbrev WorkerM (Flt ρ : Type) := ExceptT Exn (StateM (Turn Flt ρ))

/-- The platform's answer to `getLines`. -/
abbrev GetLines (Flt ρ : Type) := ArtifactUsage → ρ → Except Exn (List (Line Flt)) × ρ

/-- The constructor. -/
def new (params : Params) : Except Exn Members := do
  let sltcUsage ← artifactUsage.toSltc params.usage .virtualWall
  return ⟨sltcUsage, false, false, none⟩

def resetOnWorkLoopBegin (m : Members) : Members :=
  { m with
    pubArtifactLines := some "line_2_d_flt_32_array"
    isFeatureSupported := false
    isWorkLoopInitOk := false }

def updateMembers (f : Members → Members) : WorkerM Flt ρ Unit :=
  modify fun t => { t with members := f t.members }

section Model

variable (getLines : GetLines Flt ρ)

def pltfmGetLines : WorkerM Flt ρ (List (Line Flt)) := do
  ofExcept (← modifyGet fun t => ((getLines t.members.sltcUsage t.robot).1,
    { t with robot := (getLines t.members.sltcUsage t.robot).2 }))

/-- What the reinit asks for first; only one exception is caught. -/
def probeLines : WorkerM Flt ρ (List (Line Flt)) :=
  tryCatch
    (do
      let vLines ← pltfmGetLines getLines
      updateMembers fun m => { m with isFeatureSupported := true }
      return vLines)
    fun e => do
      if e ≠ .unsupportedCommand then throw e
      updateMembers fun m => { m with isFeatureSupported := false }
      return []

variable [Zero Flt]

/-- Without a publisher a null pointer is used. -/
def publish (vLines : List (Line Flt)) : WorkerM Flt ρ Unit := do
  let some topic := (← get).members.pubArtifactLines | throw .outOfRange
  let lines := (MsgConvert.vector MsgConvert.line2DFlt32).toRos vLines []
  modify fun t => { t with published := t.published ++ [(topic, lines)] }

/-- The end of the reinit. -/
def publishIfSupported (params : Params) (vLines : List (Line Flt)) : WorkerM Flt ρ Bool := do
  if (← get).members.isFeatureSupported then
    updateMembers fun m => { m with pubArtifactLines := some params.topic }
    publish vLines
  updateMembers fun m => { m with isWorkLoopInitOk := true }
  return true

/-- The base class allows the loop first. -/
def reinitWorkLoop (params : Params) : WorkerM Flt ρ Bool := do
  updateMembers fun m => { m with isWorkLoopInitOk := true }
  updateMembers fun m => { m with isWorkLoopInitOk := false }
  probeLines getLines >>= publishIfSupported params

def doPerform : WorkerM Flt ρ Unit := do
  if !(← get).members.isFeatureSupported then return
  let vLines ← pltfmGetLines getLines
  publish vLines

end Model

end ServerArtifactLinesWorker

/-! ## The system -/

/-- The two workers. -/
inductive LineKind where
  | walls
  | tracks
  deriving DecidableEq

def LineKind.params : LineKind → ServerArtifactLinesWorker.Params
  | walls => ⟨⟨ArtifactUsageMsg.virtualWall⟩, "virtual_walls"⟩
  | tracks => ⟨⟨ArtifactUsageMsg.virtualTrack⟩, "/slamware_ros_sdk_server_node/virtual_tracks"⟩

def LineKind.usage : LineKind → ArtifactUsage
  | walls => .virtualWall
  | tracks => .virtualTrack

structure Site (Flt ρ : Type) where
  server : State ρ
  members : LineKind → ServerArtifactLinesWorker.Members
  published : List (String × List (Line2DFlt32 Flt))

/-- A message arrives, a session of a worker begins, the worker performs, or the robot goes on. -/
inductive Event (Flt Dbl ρ : Type) where
  | message (request : Request Flt Dbl)
  | reset (kind : LineKind)
  | reinit (kind : LineKind)
  | perform (kind : LineKind)
  | elapse (step : ρ → ρ)

section System

open ServerArtifactLinesWorker

/-- What a worker does, whether it returns or throws. -/
def Site.turn {α : Type} (w : Site Flt ρ) (kind : LineKind) (m : WorkerM Flt ρ α) : Site Flt ρ :=
  let t := (m.run.run ⟨w.members kind, w.server.robot, w.published⟩).2
  { server := { w.server with robot := t.robot }
    members := Function.update w.members kind t.members
    published := t.published }

variable [Zero Flt] [Zero Dbl] [Inhabited Dbl] (sdk : Sdk Flt Dbl Scan)
  (R : Robot Flt Dbl Scan ρ) (getLines : GetLines Flt ρ)

def Event.occur : Event Flt Dbl ρ → Site Flt ρ → Site Flt ρ
  | message request, w => { w with server := (handleRequest sdk R request w.server).2.1 }
  | reset kind, w =>
      { w with
        members := Function.update w.members kind (resetOnWorkLoopBegin (w.members kind)) }
  | reinit kind, w => w.turn kind (reinitWorkLoop getLines kind.params)
  | perform kind, w => w.turn kind (doPerform getLines)
  | elapse step, w => { w with server := { w.server with robot := step w.server.robot } }

def Event.occurAll (events : List (Event Flt Dbl ρ)) (w : Site Flt ρ) : Site Flt ρ :=
  events.foldl (fun w e => e.occur sdk R getLines w) w

end System

/-! ## What is relied on -/

/-- The kind of lines a call is about. -/
def RobotCall.linesOf : RobotCall Flt Dbl Scan → Option ArtifactUsage
  | addLine usage _ | addLines usage _ | removeLineById usage _ | clearLines usage
  | moveLine usage _ | moveLines usage _ => some usage
  | _ => none

/-- The robot has lines of each kind and hands them out.  A call changes those of its kind, if
it takes effect at all, and nothing else does. -/
structure Robot.HoldsLines (R : Robot Flt Dbl Scan ρ)
    (getLines : ServerArtifactLinesWorker.GetLines Flt ρ) where
  lines : ρ → ArtifactUsage → List (Line Flt)
  edit : RobotCall Flt Dbl Scan → List (Line Flt) → List (Line Flt)
  took : RobotCall Flt Dbl Scan → ρ → Bool
  connected_lines : ∀ s, lines (R.connected s).2 = lines s
  call_lines : ∀ c s u, lines (R.call c s).2 u =
    if took c s = true ∧ c.linesOf = some u then edit c (lines s u) else lines s u
  getLines_lines : ∀ u s, lines (getLines u s).2 = lines s
  getLines_ok : ∀ u s ls, (getLines u s).1 = .ok ls → ls = lines s u

section Replay

variable {R : Robot Flt Dbl Scan ρ} {getLines : ServerArtifactLinesWorker.GetLines Flt ρ}
  (L : R.HoldsLines getLines)

/-- The lines of one kind after calls that have taken effect. -/
def Robot.HoldsLines.replay (u : ArtifactUsage) (cs : List (RobotCall Flt Dbl Scan))
    (ls : List (Line Flt)) : List (Line Flt) :=
  cs.foldl (fun ls c => if c.linesOf = some u then L.edit c ls else ls) ls

/-- The call of a demand that takes effect; cancelling an action has nothing to do with lines. -/
def Demand.takes (s : ρ) : Demand Flt Dbl Scan → List (RobotCall Flt Dbl Scan)
  | call c => if L.took c s then [c] else []
  | cancelCurrent => []
  | sync => []

variable [Zero Flt] [Zero Dbl] [Inhabited Dbl] (sdk : Sdk Flt Dbl Scan)

def Event.takes (w : Site Flt ρ) : Event Flt Dbl ρ → List (RobotCall Flt Dbl Scan)
  | message request =>
      match (R.connected w.server.robot).1, demand sdk request with
      | true, .ok d => d.takes L (R.connected w.server.robot).2
      | _, _ => []
  | _ => []

def Event.takesAll : List (Event Flt Dbl ρ) → Site Flt ρ → List (RobotCall Flt Dbl Scan)
  | [], _ => []
  | e :: events, w => e.takes L sdk w ++ takesAll events (e.occur sdk R getLines w)

/-- The robot's own doings are not about lines. -/
def Event.KeepsLines : Event Flt Dbl ρ → Prop
  | elapse step => ∀ s, L.lines (step s) = L.lines s
  | _ => True

end Replay

/-! ## Turns of a worker -/

section Turns

open ServerArtifactLinesWorker

variable [Zero Flt] {t : Turn Flt ρ}

/-- Where the lines are published once they are known to be supported. -/
def ServerArtifactLinesWorker.Members.Ready (kind : LineKind) (m : Members) : Prop :=
  m.sltcUsage = kind.usage ∧
    (m.isFeatureSupported = true → m.pubArtifactLines = some kind.params.topic)

/-- The message with these lines, on the topic of this kind. -/
def LineKind.message (kind : LineKind) (vLines : List (Line Flt)) :
    String × List (Line2DFlt32 Flt) :=
  (kind.params.topic, (MsgConvert.vector MsgConvert.line2DFlt32).toRos vLines [])

omit [Zero Flt] in
theorem run_pltfmGetLines (getLines : GetLines Flt ρ) (t : Turn Flt ρ) :
    (pltfmGetLines getLines).run.run t = ((getLines t.members.sltcUsage t.robot).1,
      { t with robot := (getLines t.members.sltcUsage t.robot).2 }) := by
  rw [pltfmGetLines, run_bind, run_modifyGet]
  cases (getLines t.members.sltcUsage t.robot).1 <;> rfl

theorem run_publish {topic : String} (h : t.members.pubArtifactLines = some topic)
    (vLines : List (Line Flt)) :
    (publish vLines).run.run t = (.ok (), { t with
      published := t.published ++
        [(topic, (MsgConvert.vector MsgConvert.line2DFlt32).toRos vLines [])] }) := by
  rw [publish, run_get_bind, h]
  rfl

theorem run_doPerform (getLines : GetLines Flt ρ) {kind : LineKind} (h : t.members.Ready kind) :
    (t.members.isFeatureSupported = false ∧ ((doPerform getLines).run.run t).2 = t) ∨
    t.members.isFeatureSupported = true ∧
      ((∃ e, (getLines kind.usage t.robot).1 = .error e ∧
          ((doPerform getLines).run.run t).2 =
            { t with robot := (getLines kind.usage t.robot).2 }) ∨
        ∃ vLines, (getLines kind.usage t.robot).1 = .ok vLines ∧
          ((doPerform getLines).run.run t).2 =
            { t with
              robot := (getLines kind.usage t.robot).2
              published := t.published ++ [kind.message vLines] }) := by
  rw [doPerform, run_get_bind, ← h.1]
  cases hsupported : t.members.isFeatureSupported with
  | false => exact Or.inl ⟨rfl, rfl⟩
  | true =>
      refine Or.inr ⟨rfl, ?_⟩
      have hlines := run_pltfmGetLines getLines t
      cases hanswer : (getLines t.members.sltcUsage t.robot).1 with
      | error e =>
          refine Or.inl ⟨e, rfl, ?_⟩
          rw [hanswer] at hlines
          change ((pltfmGetLines getLines >>= publish : WorkerM Flt ρ Unit).run.run t).2 = _
          rw [run_bind, hlines]
      | ok vLines =>
          refine Or.inr ⟨vLines, rfl, ?_⟩
          rw [hanswer] at hlines
          change ((pltfmGetLines getLines >>= publish : WorkerM Flt ρ Unit).run.run t).2 = _
          have hpublish := run_publish
            (t := { t with robot := (getLines t.members.sltcUsage t.robot).2 })
            (h.2 hsupported) vLines
          rw [run_bind, hlines]
          exact congrArg Prod.snd hpublish

omit [Zero Flt] in
/-- The lines are answered, not supported, or not answered. -/
theorem run_probeLines (getLines : GetLines Flt ρ) (t : Turn Flt ρ) :
    let robot := (getLines t.members.sltcUsage t.robot).2
    (∃ vLines, (getLines t.members.sltcUsage t.robot).1 = .ok vLines ∧
      (probeLines getLines).run.run t =
        (.ok vLines, { t with
          robot := robot, members := { t.members with isFeatureSupported := true } })) ∨
    (probeLines getLines).run.run t =
      (.ok [], { t with
        robot := robot, members := { t.members with isFeatureSupported := false } }) ∨
    ∃ e, (probeLines getLines).run.run t = (.error e, { t with robot := robot }) := by
  have hlines := run_pltfmGetLines getLines t
  simp only [probeLines, run_tryCatch, run_bind, hlines]
  cases hanswer : (getLines t.members.sltcUsage t.robot).1 with
  | ok vLines => exact Or.inl ⟨vLines, rfl, rfl⟩
  | error e =>
      by_cases hunsupported : e = .unsupportedCommand
      · subst hunsupported
        exact Or.inr (Or.inl rfl)
      · refine Or.inr (Or.inr ⟨e, ?_⟩)
        simp only [if_pos hunsupported]
        rfl

/-- The reinit publishes as well, if it finds that lines are supported. -/
theorem run_reinitWorkLoop (getLines : GetLines Flt ρ) {kind : LineKind}
    (h : t.members.Ready kind) :
    let t' := ((reinitWorkLoop getLines kind.params).run.run t).2
    t'.members.Ready kind ∧ t'.robot = (getLines kind.usage t.robot).2 ∧
      (t'.published = t.published ∨
        ∃ vLines, (getLines kind.usage t.robot).1 = .ok vLines ∧
          t'.published = t.published ++ [kind.message vLines]) := by
  let t₁ : Turn Flt ρ := { t with members := { t.members with isWorkLoopInitOk := false } }
  have husage : t₁.members.sltcUsage = kind.usage := h.1
  have hrun : (reinitWorkLoop getLines kind.params).run.run t =
    (probeLines getLines >>= publishIfSupported kind.params).run.run t₁ := rfl
  rw [hrun, run_bind]
  rcases run_probeLines getLines t₁ with
    ⟨vLines, hanswer, hprobe⟩ | hprobe | ⟨e, hprobe⟩
  · rw [hprobe, ← husage]
    exact ⟨⟨h.1, fun _ => rfl⟩, rfl, Or.inr ⟨vLines, hanswer, rfl⟩⟩
  · rw [hprobe, ← husage]
    exact ⟨⟨h.1, nofun⟩, rfl, Or.inl rfl⟩
  · rw [hprobe, ← husage]
    exact ⟨h, rfl, Or.inl rfl⟩

end Turns

/-! ## Runs of the system -/

section Runs

open ServerArtifactLinesWorker

variable {R : Robot Flt Dbl Scan ρ} {getLines : GetLines Flt ρ} (L : R.HoldsLines getLines)

theorem Robot.HoldsLines.replay_append (u : ArtifactUsage) (cs ds : List (RobotCall Flt Dbl Scan))
    (ls : List (Line Flt)) : L.replay u (cs ++ ds) ls = L.replay u ds (L.replay u cs ls) :=
  List.foldl_append

theorem lines_call {c : RobotCall Flt Dbl Scan} (h : c.linesOf = none) (s : ρ) :
    L.lines (R.call c s).2 = L.lines s := by
  funext u
  rw [L.call_lines, if_neg]
  rw [h]
  exact fun hc => nomatch hc.2

theorem lines_serve (d : Demand Flt Dbl Scan) (s : State ρ) (u : ArtifactUsage) :
    L.lines (d.serve R s).2.robot u =
      L.replay u (d.takes L s.robot) (L.lines s.robot u) := by
  cases d with
  | call c =>
      rw [Demand.serve, Demand.takes, L.call_lines]
      by_cases htook : L.took c s.robot = true <;> simp [htook, Robot.HoldsLines.replay]
  | cancelCurrent =>
      have hcurrent := lines_call L (c := .getCurrentAction) rfl s.robot
      simp only [Demand.serve]
      split
      next action robot hcall =>
        rw [hcall] at hcurrent
        exact congrFun ((lines_call L (c := .cancel action) rfl robot).trans hcurrent) u
      next reply robot _ hcall =>
        rw [hcall] at hcurrent
        exact congrFun hcurrent u
  | sync => rfl

variable [Zero Flt] [Zero Dbl] [Inhabited Dbl] (sdk : Sdk Flt Dbl Scan)

theorem lines_handleRequest (request : Request Flt Dbl) (w : Site Flt ρ) (u : ArtifactUsage) :
    L.lines (handleRequest sdk R request w.server).2.1.robot u =
      L.replay u ((Event.message request).takes L sdk w) (L.lines w.server.robot u) := by
  rw [(handleRequest_serves sdk request).1, serveRequest, Event.takes]
  cases hconnected : (R.connected w.server.robot).1 with
  | false => exact congrFun (L.connected_lines w.server.robot) u
  | true =>
      simp only [if_true]
      rw [← L.connected_lines w.server.robot]
      cases demand sdk request with
      | error e => rfl
      | ok d => exact lines_serve L d _ u

omit [Zero Dbl] [Inhabited Dbl] in
/-- The message says what the lines are. -/
theorem message_lines (kind : LineKind) (vLines : List (Line Flt)) :
    (kind.message vLines).2.map lineOf = vLines := by
  have hthere := lines_toSltc (kind.message vLines).2
  have hback := MsgConvert.RoundTrips.vector
    (fun v (_ : v ∈ vLines) => MsgConvert.line2DFlt32_roundTrips v) [] []
  rw [List.map_id] at hback
  exact Except.ok.inj (hthere.symm.trans hback)

/-- The workers are those of the source, in some state. -/
def Site.Ready (w : Site Flt ρ) : Prop := ∀ kind, (w.members kind).Ready kind

omit [Zero Flt] [Zero Dbl] [Inhabited Dbl] in
theorem Site.Ready.update {w : Site Flt ρ} (h : w.Ready) {kind : LineKind} {m : Members}
    (hm : m.Ready kind) (kind' : LineKind) :
    (Function.update w.members kind m kind').Ready kind' := by
  by_cases hkind : kind' = kind
  · subst hkind
    rwa [Function.update_self]
  · rw [Function.update_of_ne hkind]
    exact h kind'

/-- What is published is on the topic of its kind, and says which lines of this kind there are. -/
def Shows (w : Site Flt ρ) (p : String × List (Line2DFlt32 Flt)) : Prop :=
  ∃ kind : LineKind, p.1 = kind.params.topic ∧
    p.2.map lineOf = L.lines w.server.robot kind.usage

omit [Zero Dbl] [Inhabited Dbl] in
/-- What a worker has published after its turn, given the platform's answer. -/
theorem shows_of_published {w : Site Flt ρ} {kind : LineKind}
    {published : List (String × List (Line2DFlt32 Flt))}
    (h : published = w.published ∨
      ∃ vLines, (getLines kind.usage w.server.robot).1 = .ok vLines ∧
        published = w.published ++ [kind.message vLines])
    {p : String × List (Line2DFlt32 Flt)} (hp : p ∈ published) :
    p ∈ w.published ∨ Shows L w p := by
  rcases h with rfl | ⟨vLines, hanswer, rfl⟩
  · exact Or.inl hp
  · rcases List.mem_append.mp hp with hp | hp
    · exact Or.inl hp
    · obtain rfl := List.mem_singleton.mp hp
      refine Or.inr ⟨kind, rfl, ?_⟩
      rw [message_lines]
      exact L.getLines_ok _ _ _ hanswer

theorem occur_spec {w : Site Flt ρ} (hw : w.Ready) {e : Event Flt Dbl ρ} (he : e.KeepsLines L) :
    let w' := e.occur sdk R getLines w
    w'.Ready ∧
    (∀ u, L.lines w'.server.robot u =
      L.replay u (e.takes L sdk w) (L.lines w.server.robot u)) ∧
    ∀ p ∈ w'.published, p ∈ w.published ∨ Shows L w p := by
  cases e with
  | message request =>
      exact ⟨hw, lines_handleRequest L sdk request w, fun p hp => Or.inl hp⟩
  | reset kind =>
      exact ⟨hw.update ⟨(hw kind).1, nofun⟩, fun u => rfl, fun p hp => Or.inl hp⟩
  | reinit kind =>
      obtain ⟨hready, hrobot, hpublished⟩ := run_reinitWorkLoop getLines
        (t := ⟨w.members kind, w.server.robot, w.published⟩) (hw kind)
      refine ⟨hw.update hready, fun u => ?_, fun p hp => shows_of_published L hpublished hp⟩
      simp only [Event.occur, Site.turn, hrobot, L.getLines_lines]
      rfl
  | perform kind =>
      rcases run_doPerform getLines
          (t := ⟨w.members kind, w.server.robot, w.published⟩) (hw kind) with
        ⟨-, hrun⟩ | ⟨-, ⟨e, -, hrun⟩ | ⟨vLines, hanswer, hrun⟩⟩
      · simp only [Event.occur, Site.turn, hrun]
        exact ⟨hw.update (hw kind), fun u => rfl, fun p hp => Or.inl hp⟩
      · simp only [Event.occur, Site.turn, hrun, L.getLines_lines]
        exact ⟨hw.update (hw kind), fun u => rfl, fun p hp => Or.inl hp⟩
      · simp only [Event.occur, Site.turn, hrun, L.getLines_lines]
        exact ⟨hw.update (hw kind), fun u => rfl,
          fun p hp => shows_of_published L (Or.inr ⟨vLines, hanswer, rfl⟩) hp⟩
  | elapse step =>
      exact ⟨hw, fun u => congrFun (he w.server.robot) u, fun p hp => Or.inl hp⟩

/-- The lines shown are the result of the calls that had taken effect by then. -/
def ShowsAt (w : Site Flt ρ) (events : List (Event Flt Dbl ρ))
    (p : String × List (Line2DFlt32 Flt)) : Prop :=
  ∃ before after, ∃ kind : LineKind, events = before ++ after ∧ p.1 = kind.params.topic ∧
    p.2.map lineOf = L.replay kind.usage (Event.takesAll L sdk before w)
      (L.lines w.server.robot kind.usage)

/-- All that a run does to lines, and to what is published of them. -/
theorem occurAll_spec {events : List (Event Flt Dbl ρ)} (hevents : ∀ e ∈ events, e.KeepsLines L)
    {w : Site Flt ρ} (hw : w.Ready) :
    let w' := Event.occurAll sdk R getLines events w
    w'.Ready ∧
    (∀ u, L.lines w'.server.robot u =
      L.replay u (Event.takesAll L sdk events w) (L.lines w.server.robot u)) ∧
    ∀ p ∈ w'.published, p ∈ w.published ∨ ShowsAt L sdk w events p := by
  induction events generalizing w with
  | nil => exact ⟨hw, fun u => rfl, fun p hp => Or.inl hp⟩
  | cons e events ih =>
      obtain ⟨hready, hlines, hpublished⟩ := occur_spec L sdk hw (hevents e List.mem_cons_self)
      obtain ⟨hready', hlines', hpublished'⟩ :=
        ih (fun e he => hevents e (List.mem_cons_of_mem _ he)) hready
      refine ⟨hready', fun u => ?_, fun p hp => ?_⟩
      · rw [Event.takesAll, L.replay_append, ← hlines u]
        exact hlines' u
      · rcases hpublished' p hp with hp | ⟨before, after, kind, rfl, htopic, hshown⟩
        · rcases hpublished p hp with hp | ⟨kind, htopic, hshown⟩
          · exact Or.inl hp
          · exact Or.inr ⟨[], e :: events, kind, rfl, htopic, hshown⟩
        · refine Or.inr ⟨e :: before, after, kind, rfl, htopic, ?_⟩
          rw [Event.takesAll, L.replay_append, ← hlines]
          exact hshown

end Runs

/-! ## A robot with lines -/

/-- What a call does to the lines of its kind. -/
def boardEdit : RobotCall ℤ ℤ Unit → List (Line ℤ) → List (Line ℤ)
  | .addLine _ line, ls => ls ++ [line]
  | .addLines _ lines, ls => ls ++ lines
  | .removeLineById _ id, ls => ls.filter fun l => l.id ≠ id
  | .clearLines _, _ => []
  | .moveLine _ line, ls => ls.map fun l => if l.id = line.id then line else l
  | .moveLines _ lines, ls =>
      lines.foldl (fun ls line => ls.map fun l => if l.id = line.id then line else l) ls
  | _, ls => ls

def boardReply : (c : RobotCall ℤ ℤ Unit) → Except Exn c.Reply
  | .addLine _ _ => .ok ()
  | .addLines _ _ => .ok ()
  | .removeLineById _ _ => .ok ()
  | .clearLines _ => .ok ()
  | .moveLine _ _ => .ok ()
  | .moveLines _ _ => .ok ()
  | _ => .error .operationFail

abbrev Board := ArtifactUsage → List (Line ℤ)

/-- It knows nothing but lines. -/
def boardRobot : Robot ℤ ℤ Unit Board where
  connected board := (true, board)
  call c board := (boardReply c,
    fun u => if c.linesOf = some u then boardEdit c (board u) else board u)

def boardLines : ServerArtifactLinesWorker.GetLines ℤ Board := fun u board => (.ok (board u), board)

def boardRobot_holdsLines : boardRobot.HoldsLines boardLines where
  lines := id
  edit := boardEdit
  took _ _ := true
  connected_lines _ := rfl
  call_lines c s u := by simp [boardRobot]
  getLines_lines _ _ := rfl
  getLines_ok _ _ _ h := (Except.ok.inj h).symm

end Ros2WsDemo.Requests

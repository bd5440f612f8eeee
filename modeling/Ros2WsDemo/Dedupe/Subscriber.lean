import Ros2WsDemo.Dedupe.Truthful
import Ros2WsDemo.Lib.RecentWindow

/-!
# The plan subscriber

`DedupePlanSubscriber.plan_callback`, for messages handled one at a time.  Beside the
members the node keeps the record of the commands that were executed, with what
`execute_command` returned.  The window of the code holds the last 100 of them.
-/

namespace Ros2WsDemo.DedupePlan

open Python RecentWindow

structure Execution where
  command : Str
  success : Bool

structure Node (F W : Type) where
  manipulator : Manipulator F W
  processedCommands : List Str
  acks : List Bool
  executions : List Execution

section Model

variable {F W : Type}

def Node.init (manipulator : Manipulator F W) : Node F W := ⟨manipulator, [], [], []⟩

/-- The commands that were executed, in order. -/
def Node.executed (node : Node F W) : List Str := node.executions.map Execution.command

/-- `deque(maxlen=100)` -/
def maxProcessed : ℕ := 100

variable [Arithmetic F] (robot : Robot F W)

/-- `execute_command`, recorded with its result. -/
def execute (command : Str) (node : Node F W) : Bool × Node F W :=
  let (success, manipulator) := executeCommand robot command node.manipulator
  (success, { node with
    manipulator := manipulator
    executions := node.executions ++ [⟨command, success⟩] })

def planCallback (data : Str) (node : Node F W) : Node F W :=
  if data ∈ node.processedCommands then node
  else
    let node := { node with processedCommands := push maxProcessed node.processedCommands data }
    let (success, node) := execute robot data node
    { node with acks := node.acks ++ [success] }

/-- The node after a sequence of messages. -/
def receive (node : Node F W) (messages : List Str) : Node F W :=
  messages.foldl (fun node data => planCallback robot data node) node

/-- The results of executing the commands one after the other, and the manipulator then. -/
def outcomes : List Str → Manipulator F W → List Bool × Manipulator F W
  | [], s => ([], s)
  | command :: commands, s =>
      let (success, s) := executeCommand robot command s
      let (successes, s) := outcomes commands s
      (success :: successes, s)

theorem outcomes_concat (commands : List Str) (command : Str) (s : Manipulator F W) :
    outcomes robot (commands ++ [command]) s =
      ((outcomes robot commands s).1 ++
          [(executeCommand robot command (outcomes robot commands s).2).1],
        (executeCommand robot command (outcomes robot commands s).2).2) := by
  induction commands generalizing s with
  | nil => rfl
  | cons c commands ih =>
      simp only [List.cons_append, outcomes]
      rw [ih]

/-! ## One message -/

/-- What the code keeps, and what follows for every command it lets through: the window
holds the last commands executed, equal ones are far apart, each was acknowledged, and the
manipulator, once `s₀`, has done nothing else. -/
structure Node.Inv (s₀ : Manipulator F W) (node : Node F W) : Prop where
  window : node.processedCommands = last maxProcessed node.executed
  spaced : Spaced maxProcessed node.executed
  acks : node.acks = node.executions.map Execution.success
  outcomes : outcomes robot node.executed s₀ = (node.acks, node.manipulator)

theorem Node.inv_init (manipulator : Manipulator F W) :
    (Node.init manipulator).Inv robot manipulator where
  window := last_nil.symm
  spaced := spaced_nil
  acks := rfl
  outcomes := rfl

variable {robot} {s₀ : Manipulator F W} {node : Node F W}

/-- A duplicate is skipped; any other message is executed once, put into the window and
acknowledged with the result. -/
theorem planCallback_cases (hI : node.Inv robot s₀) (data : Str) :
    (data ∈ last maxProcessed node.executed ∧ planCallback robot data node = node) ∨
    (data ∉ last maxProcessed node.executed ∧
      planCallback robot data node =
        { manipulator := (executeCommand robot data node.manipulator).2
          processedCommands := last maxProcessed (node.executed ++ [data])
          acks := node.acks ++ [(executeCommand robot data node.manipulator).1]
          executions := node.executions ++
            [⟨data, (executeCommand robot data node.manipulator).1⟩] }) := by
  unfold planCallback
  rw [← hI.window]
  by_cases hdata : data ∈ node.processedCommands
  · exact Or.inl ⟨hdata, if_pos hdata⟩
  · refine Or.inr ⟨hdata, ?_⟩
    rw [if_neg hdata, ← push_last, ← hI.window]
    rfl

theorem planCallback_inv (hI : node.Inv robot s₀) (data : Str) :
    (planCallback robot data node).Inv robot s₀ := by
  rcases planCallback_cases hI data with ⟨-, heq⟩ | ⟨hnew, heq⟩
  · rw [heq]
    exact hI
  · rw [heq]
    refine ⟨?_, ?_, ?_, ?_⟩
    · simp only [Node.executed, List.map_append, List.map_cons, List.map_nil]
    · simp only [Node.executed, List.map_append, List.map_cons, List.map_nil]
      exact hI.spaced.concat hnew
    · simp only [hI.acks, List.map_append, List.map_cons, List.map_nil]
    · have hexecuted : outcomes robot (node.executions.map Execution.command) s₀ =
          (node.acks, node.manipulator) := hI.outcomes
      simp only [Node.executed, List.map_append, List.map_cons, List.map_nil, outcomes_concat,
        hexecuted]

theorem receive_inv (hI : node.Inv robot s₀) (messages : List Str) :
    (receive robot node messages).Inv robot s₀ := by
  induction messages generalizing node with
  | nil => exact hI
  | cons data messages ih => exact ih (planCallback_inv hI data)

/-- What one message does to each member. -/
theorem planCallback_spec (hI : node.Inv robot s₀) (data : Str) :
    if data ∈ last maxProcessed node.executed then planCallback robot data node = node
    else
      (planCallback robot data node).executions =
          node.executions ++ [⟨data, (executeCommand robot data node.manipulator).1⟩] ∧
        (planCallback robot data node).manipulator =
          (executeCommand robot data node.manipulator).2 ∧
        (planCallback robot data node).acks =
          node.acks ++ [(executeCommand robot data node.manipulator).1] := by
  rcases planCallback_cases hI data with ⟨hrecent, heq⟩ | ⟨hnew, heq⟩
  · rw [if_pos hrecent, heq]
  · rw [if_neg hnew, heq]
    exact ⟨rfl, rfl, rfl⟩

/-- A command is executed again exactly if enough others were executed since it was last. -/
theorem executed_again_iff (hI : node.Inv robot s₀) {before after : List Execution}
    {command : Str} {success : Bool}
    (hsplit : node.executions = before ++ ⟨command, success⟩ :: after)
    (hlast : command ∉ after.map Execution.command) :
    (planCallback robot command node).executed = node.executed ++ [command] ↔
      maxProcessed ≤ after.length := by
  have hexecuted : node.executed =
      before.map Execution.command ++ command :: after.map Execution.command := by
    simp [Node.executed, hsplit]
  have hrecent : command ∈ last maxProcessed node.executed ↔ after.length < maxProcessed := by
    rw [hexecuted, mem_last_append_cons hlast, List.length_map]
  rw [← not_lt]
  rcases planCallback_cases hI command with ⟨hin, heq⟩ | ⟨hnew, heq⟩
  · rw [heq]
    refine iff_of_false (fun h => ?_) (not_not.mpr (hrecent.mp hin))
    have hlength := congrArg List.length h
    simp at hlength
  · rw [heq]
    refine iff_of_true ?_ fun h => hnew (hrecent.mpr h)
    simp [Node.executed]

/-! ## All messages -/

variable (robot)

/-- A message is executed exactly if its text is not among the last 100 commands executed;
otherwise nothing changes.  Any 101 executions in a row have different commands.  The
acknowledgements are the results of the executions, in order, and these are what the executed
commands give one after the other from the start. -/
theorem executed_iff_not_recent (manipulator : Manipulator F W) (messages : List Str) :
    let node := receive robot (Node.init manipulator) messages
    (∀ data, if data ∈ last 100 node.executed then planCallback robot data node = node
      else
        (planCallback robot data node).executions =
            node.executions ++ [⟨data, (executeCommand robot data node.manipulator).1⟩] ∧
          (planCallback robot data node).manipulator =
            (executeCommand robot data node.manipulator).2 ∧
          (planCallback robot data node).acks =
            node.acks ++ [(executeCommand robot data node.manipulator).1]) ∧
    (∀ k, ((node.executed.drop k).take 101).Nodup) ∧
    (node.acks.length = node.executed.length ∧
      ∀ k : ℕ, node.acks[k]? = (node.executions[k]?).map Execution.success) ∧
    outcomes robot node.executed manipulator = (node.acks, node.manipulator) := by
  intro node
  have hI : node.Inv robot manipulator := receive_inv (Node.inv_init robot manipulator) messages
  refine ⟨planCallback_spec hI, hI.spaced.nodup, ⟨?_, fun k => ?_⟩, hI.outcomes⟩
  · rw [hI.acks, Node.executed, List.length_map, List.length_map]
  · rw [hI.acks, List.getElem?_map]

/-- A message whose text is not among the last 100 commands executed is executed once and
followed by one acknowledgement with its result; a repetition changes nothing.  A command
whose last execution failed is executed again exactly if 100 others were executed in
between. -/
theorem acknowledged_unless_recent (manipulator : Manipulator F W) (messages : List Str) :
    let node := receive robot (Node.init manipulator) messages
    (∀ data, if data ∈ last 100 node.executed then planCallback robot data node = node
      else
        (planCallback robot data node).executions =
            node.executions ++ [⟨data, (executeCommand robot data node.manipulator).1⟩] ∧
          (planCallback robot data node).manipulator =
            (executeCommand robot data node.manipulator).2 ∧
          (planCallback robot data node).acks =
            node.acks ++ [(executeCommand robot data node.manipulator).1]) ∧
    ∀ before command after, node.executions = before ++ ⟨command, false⟩ :: after →
      command ∉ after.map Execution.command →
        ((planCallback robot command node).executed = node.executed ++ [command] ↔
          100 ≤ after.length) := by
  intro node
  have hI : node.Inv robot manipulator := receive_inv (Node.inv_init robot manipulator) messages
  exact ⟨planCallback_spec hI, fun before command after hsplit hlast =>
    executed_again_iff hI hsplit hlast⟩

end Model

/-- A robot that cannot get anywhere. -/
def stuckRobot : Robot Exact Unit where
  perform _ w := (.error (.runtimeError "blocked"), w)
  awaitPose w := (.ok none, w)

/-- The node of this robot after a way that is blocked, a place without an operate pose and
the way once more. -/
def blockedNode : Node Exact Unit :=
  receive stuckRobot (Node.init ⟨(), none, none, .empty, []⟩)
    ["go to: table", "place", "go to: table"]

/-- The two results are acknowledged, and a repetition changes nothing. -/
theorem executed_iff_not_recent_blocked :
    blockedNode.acks = [false, true] ∧
      planCallback stuckRobot "place" blockedNode = blockedNode ∧
      blockedNode.acks[1]? = (blockedNode.executions[1]?).map Execution.success := by
  obtain ⟨hmessage, -, ⟨-, hacks⟩, -⟩ := executed_iff_not_recent stuckRobot
    ⟨(), none, none, .empty, []⟩ ["go to: table", "place", "go to: table"]
  have hrecent : Str.ofString "place" ∈ last 100 blockedNode.executed := by decide +kernel
  exact ⟨by decide +kernel, (if_pos hrecent).mp (hmessage "place"), hacks 1⟩

/-- The blocked way is not tried again. -/
theorem acknowledged_unless_recent_blocked :
    planCallback stuckRobot "go to: table" blockedNode = blockedNode ∧
      (planCallback stuckRobot "go to: table" blockedNode).executed ≠
        blockedNode.executed ++ [Str.ofString "go to: table"] := by
  obtain ⟨hmessage, hretry⟩ := acknowledged_unless_recent stuckRobot
    ⟨(), none, none, .empty, []⟩ ["go to: table", "place", "go to: table"]
  have hrecent : Str.ofString "go to: table" ∈ last 100 blockedNode.executed := by decide +kernel
  refine ⟨(if_pos hrecent).mp (hmessage "go to: table"), fun hexecuted => ?_⟩
  have hfar := (hretry [] "go to: table" [⟨"place", true⟩] rfl (by decide)).mp hexecuted
  simp at hfar

/-- A command that failed is sent again at once: no acknowledgement and no execution. -/
theorem retry_ignored :
    ¬ ∀ (robot : Robot Exact Unit) (manipulator : Manipulator Exact Unit) (messages : List Str)
        (data : Str),
      let node := receive robot (Node.init manipulator) messages
      (∃ result, (planCallback robot data node).acks = node.acks ++ [result]) ∧
        ∀ before after, node.executions = before ++ ⟨data, false⟩ :: after →
          data ∉ after.map Execution.command →
            (planCallback robot data node).executed = node.executed ++ [data] := by
  intro hall
  set node := receive stuckRobot (Node.init ⟨(), none, none, .empty, []⟩) ["go to: table"]
    with hnode
  obtain ⟨⟨result, hack⟩, -⟩ :=
    hall stuckRobot ⟨(), none, none, .empty, []⟩ ["go to: table"] "go to: table"
  have hI : node.Inv stuckRobot _ := receive_inv (Node.inv_init stuckRobot _) _
  have hexecuted : node.executed = ["go to: table"] := rfl
  rcases planCallback_cases hI "go to: table" with ⟨-, heq⟩ | ⟨hnew, -⟩
  · rw [← hnode, heq] at hack
    have hlength := congrArg List.length hack
    simp at hlength
  · rw [hexecuted] at hnew
    exact hnew List.mem_cons_self

end Ros2WsDemo.DedupePlan

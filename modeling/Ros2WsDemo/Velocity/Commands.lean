import Ros2WsDemo.Velocity.Callbacks

/-!
# What becomes of a velocity command

One callback either sends its velocity through the action the server holds, or
creates an action and sends nothing.  The held action may have been created for
the other topic, and creating one counts as success.  Both show already in single
callbacks, so the conditions under which they cannot happen are exact.
-/

namespace Ros2WsDemo.Velocity

open Effect

section Handled

variable {D F ρ : Type}

/-! ## Observations -/

/-- A velocity sent to the robot: through which action, and whether the robot took it. -/
structure Sent (F : Type) where
  action : VelocityControlMoveAction
  velocity : F × F × F
  done : Bool
  deriving DecidableEq, Repr

@[simp] def sent : Call F → Option (Sent F)
  | ⟨.setVelocity action vx vy omega, (r : Except Exn Unit)⟩ =>
      some ⟨action, (vx, vy, omega), r.isOk⟩
  | _ => none

@[simp] def isError : Call F → Bool
  | ⟨.rclcppError _, _⟩ => true
  | _ => false

@[simp] def isCreationFailure : Call F → Bool
  | ⟨.velocityControl _, (r : Except Exn (Option VelocityControlMoveAction))⟩ => !r.isOk
  | _ => false

@[simp] def isConnected : Call F → Bool
  | ⟨.safeGetSlamwarePlatform, (connected : Bool)⟩ => connected
  | _ => false

namespace Handled

variable (h : Handled D F)

def sentVelocities : List (Sent F) := h.calls.filterMap sent

/-- The callback has returned without catching an exception. -/
def accepted : Bool := h.result.isOk && !h.calls.any isError

def connected : Bool := h.calls.any isConnected

def creationFailed : Bool := h.calls.any isCreationFailure

def velocity (toFloat : D → F) : F × F × F :=
  (toFloat h.message.msg.linear.x, toFloat h.message.msg.linear.y, toFloat h.message.msg.angular.z)

end Handled

/-! ## One callback -/

section Spec

attribute [local simp] handleMessage msgCbWrapperFun controlVelocity velocityControl setVelocity
  writeVelocityControllAction rclcppError Handled.connected Handled.sentVelocities
  Handled.accepted Handled.creationFailed Handled.velocity Except.isOk Except.toBool

variable (R : Robot F ρ) (toFloat : D → F) (message : Message D) {s : State ρ}

theorem handleMessage_notConnected (hconn : (R.connected s.robot).1 = false) :
    let h := (handleMessage R toFloat message s).1
    h.connected = false ∧ h.sentVelocities = [] ∧ h.accepted = false := by
  obtain ⟨cantConstruct, cantSet, hcallback⟩ :=
    callback_eq VelocityControlMoveAction toFloat message.topic
  simp [hcallback, hconn]

/-- Without a held action one is created, and the velocity is not sent. -/
theorem handleMessage_creates (hconn : (R.connected s.robot).1 = true)
    (hheld : s.velocityControllAction = none) :
    let h := (handleMessage R toFloat message s).1
    h.connected = true ∧ h.sentVelocities = [] ∧ h.accepted = !h.creationFailed := by
  obtain ⟨cantConstruct, cantSet, hcallback⟩ :=
    callback_eq VelocityControlMoveAction toFloat message.topic
  cases hcreate : R.velocityControl message.topic.flag (R.connected s.robot).2 with
  | mk created robot =>
      cases created with
      | ok usable => simp [hcallback, hconn, hheld, hcreate]
      | error e =>
          cases hstd : e.isStd <;> cases hfault : e.isFault <;>
            simp [hcallback, hconn, hheld, hcreate, hstd, hfault]

/-- With a held action the velocity is sent through it. -/
theorem handleMessage_sends (hconn : (R.connected s.robot).1 = true)
    {action : VelocityControlMoveAction} (hheld : s.velocityControllAction = some action) :
    let h := (handleMessage R toFloat message s).1
    h.connected = true ∧ h.creationFailed = false ∧ ∃ done,
      h.sentVelocities = [⟨action, h.velocity toFloat, done⟩] ∧ h.accepted = done := by
  obtain ⟨cantConstruct, cantSet, hcallback⟩ :=
    callback_eq VelocityControlMoveAction toFloat message.topic
  cases hset : R.setVelocity action (toFloat message.msg.linear.x)
      (toFloat message.msg.linear.y) (toFloat message.msg.angular.z)
      (R.connected s.robot).2 with
  | mk done robot =>
      cases done with
      | ok u => simp [hcallback, hconn, hheld, hset, List.filterMap_cons]
      | error e =>
          cases hstd : e.isStd <;> cases hfault : e.isFault <;>
            simp [hcallback, hconn, hheld, hset, hstd, hfault, List.filterMap_cons]

end Spec

/-! ## Runs -/

/-- What holds of every callback holds of every message of a run. -/
theorem forall_handleMessages {R : Robot F ρ} {toFloat : D → F} {P : Handled D F → Prop}
    (hP : ∀ message s, P (handleMessage R toFloat message s).1) (messages : List (Message D))
    (s : State ρ) : ∀ h ∈ handleMessages R toFloat messages s, P h := by
  induction messages generalizing s with
  | nil => exact nofun
  | cons message messages ih =>
      intro h hh
      rcases List.mem_cons.mp hh with rfl | hh
      · exact hP message s
      · exact ih _ h hh

/-! ### Monitored and unmonitored motion -/

/-- Every velocity of the callback goes through an action of its topic's kind. -/
def Handled.NeverMixed (h : Handled D F) : Prop :=
  ∀ v ∈ h.sentVelocities, v.action.flag = h.message.topic.flag

/-- The server does not hold an action of the other topic's kind. -/
def Handled.HoldsOwn (h : Handled D F) : Prop :=
  h.connected = true → ∀ action, h.held = some action → action.flag = h.message.topic.flag

theorem handleMessage_neverMixed_iff (R : Robot F ρ) (toFloat : D → F) (message : Message D)
    (s : State ρ) :
    (handleMessage R toFloat message s).1.NeverMixed ↔
      (handleMessage R toFloat message s).1.HoldsOwn := by
  have hheldEq : (handleMessage R toFloat message s).1.held = s.velocityControllAction := rfl
  unfold Handled.NeverMixed Handled.HoldsOwn
  rw [hheldEq]
  cases hconn : (R.connected s.robot).1 with
  | false =>
      obtain ⟨hc, hsent, -⟩ := handleMessage_notConnected R toFloat message hconn
      simp [hc, hsent]
  | true =>
      cases hheld : s.velocityControllAction with
      | none =>
          obtain ⟨-, hsent, -⟩ := handleMessage_creates R toFloat message hconn hheld
          simp [hsent]
      | some action =>
          obtain ⟨hc, -, done, hsent, -⟩ := handleMessage_sends R toFloat message hconn hheld
          simp [hc, hsent]

/-- Monitored and unmonitored velocities never mix exactly in the runs in which no
message finds an action of the other topic's kind. -/
theorem never_mixed_iff (R : Robot F ρ) (toFloat : D → F) (messages : List (Message D))
    (robot : ρ) :
    (∀ h ∈ handleMessages R toFloat messages (State.init robot), h.NeverMixed) ↔
      ∀ h ∈ handleMessages R toFloat messages (State.init robot), h.HoldsOwn := by
  have heach : ∀ h ∈ handleMessages R toFloat messages (State.init robot),
      h.NeverMixed ↔ h.HoldsOwn := forall_handleMessages
    (fun message s => handleMessage_neverMixed_iff R toFloat message s) messages (State.init robot)
  exact forall₂_congr heach

/-- A robot on which nothing fails. -/
def reliableRobot : Robot ℤ Unit where
  connected _ := (true, ())
  velocityControl _ _ := (.ok true, ())
  setVelocity _ _ _ _ _ := (.ok (), ())

def forward : Twist ℤ := ⟨⟨1, 0, 0⟩, ⟨0, 0, 0⟩⟩

/-- An action created for the safe topic carries the velocity of the other one. -/
theorem mixed_after_switch :
    ¬∀ (D F ρ : Type) (R : Robot F ρ) (toFloat : D → F) (messages : List (Message D)) (robot : ρ),
      ∀ h ∈ handleMessages R toFloat messages (State.init robot), h.NeverMixed := by
  intro hholds
  have hall := hholds ℤ ℤ Unit reliableRobot id
    [⟨.velControlTopic, forward⟩, ⟨.cmdVelNoLimit, forward⟩] ()
  have hsecond := hall _ (List.mem_cons_of_mem _ List.mem_cons_self)
  have hsent := hsecond ⟨⟨.monitoredByLocalizationQuality⟩, (1, 0, 0), true⟩ (by decide)
  exact absurd hsent (by decide)

/-! ### Dropped commands -/

/-- If the callback reports no error, it has sent its velocity. -/
def Handled.SentIfAccepted (h : Handled D F) (toFloat : D → F) : Prop :=
  h.accepted = true → ∃ v ∈ h.sentVelocities, v.velocity = h.velocity toFloat

/-- The server holds an action, or fails to create one. -/
def Handled.HeldOrFails (h : Handled D F) : Prop :=
  h.connected = true → h.held ≠ none ∨ h.creationFailed = true

/-- The velocities the robot has taken. -/
def Handled.takenVelocities (h : Handled D F) : List (F × F × F) :=
  (h.sentVelocities.filter Sent.done).map Sent.velocity

theorem handleMessage_sentIfAccepted_iff (R : Robot F ρ) (toFloat : D → F) (message : Message D)
    (s : State ρ) :
    (handleMessage R toFloat message s).1.SentIfAccepted toFloat ↔
      (handleMessage R toFloat message s).1.HeldOrFails := by
  have hheldEq : (handleMessage R toFloat message s).1.held = s.velocityControllAction := rfl
  unfold Handled.SentIfAccepted Handled.HeldOrFails
  rw [hheldEq]
  cases hconn : (R.connected s.robot).1 with
  | false =>
      obtain ⟨hc, -, haccepted⟩ := handleMessage_notConnected R toFloat message hconn
      simp [hc, haccepted]
  | true =>
      cases hheld : s.velocityControllAction with
      | none =>
          obtain ⟨hc, hsent, haccepted⟩ := handleMessage_creates R toFloat message hconn hheld
          simp [hc, hsent, haccepted]
      | some action =>
          obtain ⟨-, -, done, hsent, -⟩ := handleMessage_sends R toFloat message hconn hheld
          simp [hsent]

/-- Under the condition the robot takes the velocity of a message exactly when it is accepted. -/
theorem handleMessage_taken (R : Robot F ρ) (toFloat : D → F) (message : Message D) (s : State ρ) :
    (handleMessage R toFloat message s).1.HeldOrFails →
      (handleMessage R toFloat message s).1.takenVelocities =
        if (handleMessage R toFloat message s).1.accepted = true then
          [(handleMessage R toFloat message s).1.velocity toFloat] else [] := by
  have hheldEq : (handleMessage R toFloat message s).1.held = s.velocityControllAction := rfl
  unfold Handled.HeldOrFails Handled.takenVelocities
  rw [hheldEq]
  intro hcond
  cases hconn : (R.connected s.robot).1 with
  | false =>
      obtain ⟨-, hsent, haccepted⟩ := handleMessage_notConnected R toFloat message hconn
      simp [hsent, haccepted]
  | true =>
      cases hheld : s.velocityControllAction with
      | none =>
          obtain ⟨hc, hsent, haccepted⟩ := handleMessage_creates R toFloat message hconn hheld
          have hfailed := (hcond hc).resolve_left fun hne => hne hheld
          simp [hsent, haccepted, hfailed]
      | some action =>
          obtain ⟨-, -, done, hsent, haccepted⟩ :=
            handleMessage_sends R toFloat message hconn hheld
          cases done <;> simp [hsent, haccepted]

/-- The velocities taken in a run, and the velocities of its accepted messages. -/
def takenVelocities (run : List (Handled D F)) : List (F × F × F) :=
  run.flatMap Handled.takenVelocities

def acceptedVelocities (toFloat : D → F) (run : List (Handled D F)) : List (F × F × F) :=
  (run.filter Handled.accepted).map fun h => h.velocity toFloat

theorem takenVelocities_eq {toFloat : D → F} {run : List (Handled D F)}
    (h : ∀ h ∈ run, h.takenVelocities =
      if h.accepted = true then [h.velocity toFloat] else []) :
    takenVelocities run = acceptedVelocities toFloat run := by
  induction run with
  | nil => rfl
  | cons a run ih =>
      have hrest := ih fun h' hh' => h h' (List.mem_cons_of_mem _ hh')
      simp only [takenVelocities, acceptedVelocities, List.flatMap_cons] at hrest ⊢
      rw [hrest, h a List.mem_cons_self]
      cases haccepted : a.accepted <;> simp [haccepted]

/-- Every accepted velocity is sent, and the last one taken is the last one
accepted, exactly in the runs in which every message finds an action or fails to
create one. -/
theorem no_command_dropped_iff (R : Robot F ρ) (toFloat : D → F) (messages : List (Message D))
    (robot : ρ) :
    let run := handleMessages R toFloat messages (State.init robot)
    ((∀ h ∈ run, h.SentIfAccepted toFloat) ∧
        (takenVelocities run).getLast? = (acceptedVelocities toFloat run).getLast?) ↔
      ∀ h ∈ run, h.HeldOrFails := by
  intro run
  have hiff : ∀ h ∈ run, h.SentIfAccepted toFloat ↔ h.HeldOrFails := forall_handleMessages
    (fun message s => handleMessage_sentIfAccepted_iff R toFloat message s) messages
    (State.init robot)
  have htaken : ∀ h ∈ run, h.HeldOrFails → h.takenVelocities =
      if h.accepted = true then [h.velocity toFloat] else [] := forall_handleMessages
    (fun message s => handleMessage_taken R toFloat message s) messages (State.init robot)
  constructor
  · rintro ⟨hsent, -⟩ h hh
    exact (hiff h hh).mp (hsent h hh)
  · intro hcond
    refine ⟨fun h hh => (hiff h hh).mpr (hcond h hh), ?_⟩
    rw [takenVelocities_eq fun h hh => htaken h hh (hcond h hh)]

/-- The first command is accepted, and the robot is sent nothing. -/
theorem first_command_dropped :
    ¬∀ (D F ρ : Type) (R : Robot F ρ) (toFloat : D → F) (messages : List (Message D)) (robot : ρ),
      let run := handleMessages R toFloat messages (State.init robot)
      (∀ h ∈ run, h.SentIfAccepted toFloat) ∧
        (takenVelocities run).getLast? = (acceptedVelocities toFloat run).getLast? := by
  intro hholds
  obtain ⟨hall, -⟩ := hholds ℤ ℤ Unit reliableRobot id [⟨.velControlTopic, forward⟩] ()
  obtain ⟨v, hv, -⟩ := hall _ List.mem_cons_self rfl
  exact absurd hv (List.not_mem_nil)

end Handled

end Ros2WsDemo.Velocity

import Ros2WsDemo.Grasp.HeldObject

/-!
# The keyboard console

The loop of `run`: spin once, read a key, do what the key stands for.  An exception that no
operation catches ends the program.  Over a whole session only a few deeds matter for placing
an object: where it was grasped last, and whether it has been stowed since.
-/

namespace Ros2WsDemo.MobileManipulator

open Python ExceptState

/-! ## Keys -/

/-- The branches of the loop, in their order. -/
inductive Branch where
  | pickTable
  | placeTable
  | printOdom
  | setPickTable
  | setPlaceTable
  | grasp
  | place
  | printArmPose
  | stow
  | retrieve
  | closeGripper
  | openGripper
  | printGripper
  | pressButton
  | pressButtonUp
  | waitOutOfElevator
  | resetGrasp
  | recLoc
  | deliver
  | quit
  | invalid
  deriving DecidableEq

/-- `key.upper()` as far as the loop compares it: nothing but a small letter has one of the
seven capital letters as its upper case. -/
def upper (key : ℕ) : ℕ := if 97 ≤ key ∧ key ≤ 122 then key - 32 else key

/-- The tests of the loop; keys are code points. -/
def branch (key : ℕ) : Branch :=
  if key = 48 then .pickTable
  else if key = 49 then .placeTable
  else if key = 50 then .printOdom
  else if upper key = 80 then .setPickTable
  else if upper key = 76 then .setPlaceTable
  else if key = 51 then .grasp
  else if key = 52 then .place
  else if key = 53 then .printArmPose
  else if upper key = 66 then .stow
  else if upper key = 79 then .retrieve
  else if key = 54 then .closeGripper
  else if key = 55 then .openGripper
  else if key = 56 then .printGripper
  else if key = 57 then .pressButton
  else if key = 117 then .pressButtonUp
  else if key = 111 then .waitOutOfElevator
  else if upper key = 84 then .resetGrasp
  else if upper key = 65 then .recLoc
  else if upper key = 80 then .deliver
  else if upper key = 81 then .quit
  else .invalid

def Branch.Live (b : Branch) : Prop := b ≠ .waitOutOfElevator ∧ b ≠ .deliver

instance (b : Branch) : Decidable b.Live := inferInstanceAs (Decidable (_ ∧ _))

theorem branch_of_le {key : ℕ} (h : 128 ≤ key) : branch key = .invalid := by
  have hupper : upper key = key := if_neg (by omega)
  have hne : ∀ n < 128, key ≠ n := by omega
  unfold branch
  rw [hupper]
  simp only [hne, Nat.reduceLT, if_false]

/-- `o` is taken for `O`, and `P` sets a table: two of the branches are never reached. -/
theorem branch_live (key : ℕ) : (branch key).Live := by
  rcases lt_or_ge key 128 with hkey | hkey
  · have hsmall : ∀ key < 128, (branch key).Live := by decide
    exact hsmall key hkey
  · rw [branch_of_le hkey]
    decide

/-! ## The loop -/

/-- A message that a spin hands to its callback.  The conversion of a detected pose reads a
file; of a floor message it matters whether there is a six in it. -/
inductive Arrival (F : Type) where
  | pose (objPose : Except Exn (Translation F))
  | buttonPose
  | floor (six : Bool)

/-- What the parts of the robot answer while one key is handled.  `arrivals` are the messages
of the nested spin, `before` and `after` the motions around a press of a button, `kept` is
publishing or saving the photo. -/
structure Answers (F Geo : Type) where
  out : Outcomes F
  arrivals : List (Arrival F)
  base : Except Exn Unit
  odom : Option Geo
  image : Bool
  rtMatrix : Except Exn Unit
  kept : Except Exn Unit
  yolo : Except Exn (Translation F × Translation F)
  gripper : Except Exn Unit
  before : Except Exn Unit
  after : Except Exn Unit

inductive BaseCall (Geo : Type) where
  | navToObj (location : Option Geo)
  | recLoc

/-- The arm's members with the others that the loop uses, and the calls to the base. -/
structure Console (F Geo : Type) where
  arm : Arm F
  getFloor : Bool
  pickTable : Option Geo
  placeTable : Option Geo
  baseCalls : List (BaseCall Geo)

abbrev ConsoleM (F Geo : Type) := ExceptT Exn (StateM (Console F Geo))

section Model

variable {F Geo α : Type}

/-- An operation of the arm. -/
def onArm (m : ArmM F α) : ConsoleM F Geo α := do
  let r ← modifyGet fun s => ((m.run.run s.arm).1, { s with arm := (m.run.run s.arm).2 })
  ofExcept r

/-- The subscription to `/button_pose` calls its callback without the second pose. -/
def Arrival.handle : Arrival F → ConsoleM F Geo Unit
  | pose objPose => do
      let objPose ← ofExcept objPose
      modify fun s => { s with arm := { s.arm with objPose := some objPose } }
  | buttonPose => throw .typeError
  | floor six => modify fun s => { s with getFloor := s.getFloor || six }

def spin : List (Arrival F) → ConsoleM F Geo Unit
  | [] => return
  | arrival :: arrivals => do
      arrival.handle
      spin arrivals

variable [Arithmetic F]

def obsJointButton : Pose6 F := ⟨150.0, 23.5, -121.36, 90.27, 101.0, -177.0⟩

def restorePose : Pose6 F := ⟨150.0, 45.11, -92.87, -5.6, 116.4, -177.19⟩

section Handle

variable (poseConfig : PoseConfig F) (a : Answers F Geo)

def getObservation (joints : Pose6 F) : ConsoleM F Geo Bool :=
  observation (onArm (send (.moveJ joints))) (return a.image)

/-- Without an image, `e` is raised. -/
def keepImage (e : Exn) (image : Bool) : ConsoleM F Geo Unit :=
  if image then ofExcept a.kept else throw e

def navToObj (location : Option Geo) : ConsoleM F Geo Unit := do
  modify fun s => { s with baseCalls := s.baseCalls ++ [.navToObj location] }
  ofExcept a.base

/-- The observation and the wait for a pose that come before an object is approached. -/
def detectObject : ConsoleM F Geo Unit := do
  let image ← getObservation a obsJoint
  ofExcept a.rtMatrix
  keepImage a .attributeError image
  spin a.arrivals

/-- The motion to the button and its detection. -/
def detectButton (e : Exn) : ConsoleM F Geo (Translation F × Translation F) := do
  onArm (send (.moveJ obsJointButton))
  ofExcept a.before
  let image ← getObservation a obsJointButton
  ofExcept a.rtMatrix
  keepImage a e image
  ofExcept a.yolo

def moveToRestorePose : ConsoleM F Geo Unit := do
  onArm (send (.moveJ restorePose))
  ofExcept a.after

def moveGripper (position : ℤ) : ConsoleM F Geo Unit := do
  onArm (send (.gripper position))
  ofExcept a.gripper

/-- The body of a branch; whether the loop goes on. -/
def Branch.handle : (b : Branch) → b.Live → ConsoleM F Geo Bool
  | pickTable, _ => do
      navToObj a (← get).pickTable
      return true
  | placeTable, _ => do
      navToObj a (← get).placeTable
      return true
  | printOdom, _ => do
      spin a.arrivals
      return true
  | setPickTable, _ => do
      spin a.arrivals
      modify fun s => { s with pickTable := a.odom.or s.pickTable }
      return true
  | setPlaceTable, _ => do
      spin a.arrivals
      modify fun s => { s with placeTable := a.odom.or s.placeTable }
      return true
  | grasp, _ => do
      detectObject a
      onArm (graspObj a.out 26.08 (-18.985) 10.0)
      return true
  | place, _ => do
      let _ ← onArm (placeAtFixedHeight a.out 0.75)
      return true
  | printArmPose, _ => do
      ofExcept a.rtMatrix
      return true
  | stow, _ => do
      onArm (storeObjectInPocket poseConfig a.out)
      return true
  | retrieve, _ => do
      onArm (retrieveObjectFromPocket poseConfig a.out)
      return true
  | closeGripper, _ => do
      moveGripper a 0
      return true
  | openGripper, _ => do
      moveGripper a 1000
      return true
  | printGripper, _ => do
      ofExcept a.gripper
      return true
  | pressButton, _ => do
      let (pose, card) ← detectButton a (.other "cv2.error")
      modify fun s => { s with
        arm := { s.arm with buttonPose := some pose, cardPose := some card } }
      onArm (MobileManipulator.pressButton a.out (-70.0) 130.0 (-40.0))
      moveToRestorePose a
      return true
  | pressButtonUp, _ => do
      let (pose, _) ← detectButton a .attributeError
      modify fun s => { s with arm := { s.arm with buttonPose := some pose } }
      onArm (MobileManipulator.pressButtonUp a.out (-70.0) 130.0 (-40.0))
      moveToRestorePose a
      return true
  | resetGrasp, _ => do
      detectObject a
      onArm (resetGraspPose a.out 0.0 0.0 0.0)
      return true
  | recLoc, _ => do
      modify fun s => { s with baseCalls := s.baseCalls ++ [.recLoc] }
      ofExcept a.base
      return true
  | quit, _ => return false
  | invalid, _ => return true
  | waitOutOfElevator, h => absurd rfl h.1
  | deliver, h => absurd rfl h.2

end Handle

/-- One round of the loop; `spun` are the messages of `spin_once`.  Without a terminal there is
no key. -/
structure Press (F Geo : Type) where
  spun : List (Arrival F)
  key : Option ℕ
  answers : Answers F Geo

/-- No key does as little as one that stands for nothing. -/
def Press.branch (p : Press F Geo) : Branch := p.key.elim .invalid MobileManipulator.branch

omit [Arithmetic F] in
theorem Press.branch_live (p : Press F Geo) : p.branch.Live := by
  unfold Press.branch
  cases p.key with
  | none => exact (by decide : Branch.invalid.Live)
  | some key => exact MobileManipulator.branch_live key

def Press.handle (poseConfig : PoseConfig F) (p : Press F Geo) : ConsoleM F Geo Bool := do
  spin p.spun
  p.branch.handle poseConfig p.answers p.branch_live

/-- Whether the session goes on after these keys. -/
def session (poseConfig : PoseConfig F) : List (Press F Geo) → ConsoleM F Geo Bool
  | [] => return true
  | p :: ps => do
      match ← p.handle poseConfig with
      | true => session poseConfig ps
      | false => return false

end Model

/-! ## What placing depends on -/

section Desk

variable {F Geo α : Type}

structure Desk (F : Type) where
  objectState : ObjectState
  operatePose : Option (Pose6 F)
  objPose : Option (Translation F)

def Arm.desk (s : Arm F) : Desk F := ⟨s.objectState, s.operatePose, s.objPose⟩

def Console.desk (s : Console F Geo) : Desk F := s.arm.desk

/-- A message that has come through. -/
def Desk.see (d : Desk F) : Arrival F → Desk F
  | .pose (.ok t) => { d with objPose := some t }
  | .pose (.error _) | .buttonPose | .floor _ => d

theorem foldl_see (arrivals : List (Arrival F)) (d : Desk F) :
    (arrivals.foldl Desk.see d).objectState = d.objectState ∧
      (arrivals.foldl Desk.see d).operatePose = d.operatePose := by
  induction arrivals generalizing d with
  | nil => exact ⟨rfl, rfl⟩
  | cons arrival arrivals ih =>
      have hstep : (d.see arrival).objectState = d.objectState ∧
          (d.see arrival).operatePose = d.operatePose := by
        rcases arrival with (e | t) | _ | six <;> exact ⟨rfl, rfl⟩
      exact ⟨(ih _).1.trans hstep.1, (ih _).2.trans hstep.2⟩

/-- The branches that wait for a message. -/
def Branch.spins : Branch → Bool
  | printOdom | setPickTable | setPlaceTable | grasp | resetGrasp => true
  | _ => false

/-- The messages of a nested spin. -/
def Branch.awaited (b : Branch) (a : Answers F Geo) : List (Arrival F) :=
  if b.spins then a.arrivals else []

/-- What a key led to. -/
inductive Deed (F : Type) where
  | nothing
  | grasp
  | place
  | breakOff
  | stow
  | retrieve (pose : Option (Pose6 F))
  | reset

/-- Stowing and retrieving may be broken off. -/
def Deed.Allowed : Deed F → Branch → Prop
  | nothing, b => b ∉ [.grasp, .place, .stow, .resetGrasp]
  | grasp, b => b = .grasp
  | place, b => b = .place
  | breakOff, b => b = .stow
  | stow, b => b = .stow
  | retrieve _, b => b = .retrieve
  | reset, b => b = .resetGrasp

theorem eq_place_of_allowed {d : Deed F} (h : d.Allowed .place) : d = .place := by
  cases d <;> first | rfl | simp [Deed.Allowed] at h

variable [Arithmetic F]

def graspPose (t : Translation F) : Pose6 F :=
  ⟨t.x * 1000.0 + 26.08, t.y * 1000.0 + -18.985, t.z * 1000.0 + 10.0, -62.15, -57.52, 29.53⟩

def resetPose (t : Translation F) : Pose6 F :=
  ⟨t.x * 1000.0 + 0.0, t.y * 1000.0 + 0.0, t.z * 1000.0 + 0.0, 18.93, -19.17, -61.98⟩

def Desk.after (d : Desk F) : Deed F → Desk F
  | .nothing => d
  | .grasp =>
      match d.objPose with
      | none => d
      | some t => { d with objectState := .held, operatePose := some (graspPose t) }
  | .place => if d.operatePose.isSome then { d with objectState := .empty } else d
  | .breakOff => { d with objectState := .held }
  | .stow => { d with objectState := .stowed, operatePose := none }
  | .retrieve pose => { d with objectState := .held, operatePose := pose }
  | .reset =>
      match d.objPose with
      | none => d
      | some t => { d with operatePose := some (resetPose t) }

/-! ### Operations of the arm -/

omit [Arithmetic F] in
theorem keeps_send (c : Command F) : Keeps Arm.desk (send c) := keeps_modify fun _ => rfl

omit [Arithmetic F] in
theorem keeps_direct (out : Outcomes F) (i : ℕ) (c : Command F) :
    Keeps Arm.desk (direct out i c) := (keeps_send c).bind fun _ => keeps_ofExcept _

omit [Arithmetic F] in
theorem keeps_commandGripperIfUnset (out : Outcomes F) (i : ℕ) (entry : PoseEntry F) (n : ℤ) :
    Keeps Arm.desk (commandGripperIfUnset out i entry n) := by
  unfold commandGripperIfUnset
  split
  · exact keeps_direct out i _
  · exact keeps_pure ()

theorem keeps_movePoseFromConfig (poseConfig : PoseConfig F) (out : Outcomes F) (move : ConfigMove)
    (key : Str) (subkey : Option Str) :
    Keeps Arm.desk (movePoseFromConfig poseConfig out move key subkey) := by
  refine (keeps_ofExcept _).bind fun entry => ?_
  cases entry with
  | none => exact keeps_pure none
  | some entry =>
      refine (keeps_send _).bind fun _ => ?_
      split
      · exact keeps_pure none
      · split
        · exact keeps_pure _
        · split
          · exact keeps_pure none
          · refine (keeps_send _).bind fun _ => ?_
            split <;> exact keeps_pure _

theorem keeps_goToTableReadyPose (poseConfig : PoseConfig F) (out : Outcomes F) :
    Keeps Arm.objPose (goToTableReadyPose poseConfig out) := by
  refine Keeps.bind ((keeps_movePoseFromConfig poseConfig out .tableReady _ _).map Desk.objPose)
    fun entry => ?_
  have hset : ∀ pose : Option (Pose6 F), Keeps Arm.objPose
      (modify fun s => { s with operatePose := pose } : ArmM F Unit) :=
    fun pose => keeps_modify fun _ => rfl
  cases entry with
  | none =>
      refine Keeps.bind ((keeps_send _).map Desk.objPose) fun _ => ?_
      split
      all_goals exact (hset _).bind fun _ => keeps_pure _
  | some entry =>
      dsimp only
      split_ifs
      · exact (hset _).bind fun _ => keeps_pure _
      · split
        all_goals exact (hset _).bind fun _ => keeps_pure _

section Operations

variable {poseConfig : PoseConfig F} {out : Outcomes F} {s s' : Arm F} {u : Unit}

theorem desk_graspObj (h : (graspObj out 26.08 (-18.985) 10.0).run.run s = (.ok u, s')) :
    s'.desk = s.desk.after .grasp := by
  simp only [graspObj, ArmCalls.graspObj, armCalls] at h
  have h := run_direct_bind (run_direct_bind h)
  rw [run_read_bind] at h
  cases hobj : s.objPose with
  | none =>
      simp only [hobj] at h
      obtain ⟨-, rfl⟩ := returned_pure h
      simp [Desk.after, Arm.desk, hobj]
  | some t =>
      simp only [hobj] at h
      rw [run_modify_bind] at h
      have h := run_direct_bind (run_direct_bind (run_direct_bind (run_direct_bind h)))
      have hafter := returned_modify h
      subst hafter
      simp [Desk.after, Arm.desk, hobj, graspPose, transformedPose]

theorem desk_resetGraspPose (h : (resetGraspPose out 0.0 0.0 0.0).run.run s = (.ok u, s')) :
    s'.desk = s.desk.after .reset := by
  have h := run_direct_bind (run_direct_bind h)
  rw [run_get_bind] at h
  cases hobj : s.objPose with
  | none =>
      simp only [hobj] at h
      obtain ⟨-, rfl⟩ := returned_pure h
      simp [Desk.after, Arm.desk, hobj]
  | some t =>
      simp only [hobj] at h
      have hafter := returned_modify h
      subst hafter
      simp [Desk.after, Arm.desk, hobj, resetPose]

/-- Where the arm goes to place an object that was operated on at `p`. -/
def placing (p : Pose6 F) : List (Command F) :=
  [.moveJPose { p with z := 0.75 * 1000.0 - 650.0 }, .gripper 1000,
    .moveJPose { p with x := p.x - 100.0, z := 0.75 * 1000.0 - 650.0 }, .moveJ obsJoint]

theorem run_placeAtFixedHeight {r : Option Bool}
    (h : (placeAtFixedHeight out 0.75).run.run s = (.ok r, s')) :
    s.operatePose = none ∧ s' = s ∨
      ∃ p, s.operatePose = some p ∧
        s' = { s with objectState := .empty, commands := s.commands ++ placing p } := by
  simp only [placeAtFixedHeight, ArmCalls.placeAtFixedHeight, armCalls] at h
  rw [run_read_bind] at h
  cases hoperate : s.operatePose with
  | none =>
      simp only [hoperate] at h
      obtain ⟨-, rfl⟩ := returned_pure h
      exact Or.inl ⟨rfl, rfl⟩
  | some p =>
      simp only [hoperate] at h
      have h := run_direct_bind (run_direct_bind h)
      rw [run_modify_bind] at h
      obtain ⟨-, rfl⟩ := returned_pure (run_direct_bind (run_direct_bind h))
      refine Or.inr ⟨p, rfl, ?_⟩
      simp [placing, hoperate, dropPose, postDropPose]

theorem desk_placeAtFixedHeight {r : Option Bool}
    (h : (placeAtFixedHeight out 0.75).run.run s = (.ok r, s')) :
    s'.desk = s.desk.after .place := by
  rcases run_placeAtFixedHeight h with ⟨hnone, rfl⟩ | ⟨p, hsome, rfl⟩
  · simp [Desk.after, Arm.desk, hnone]
  · simp [Desk.after, Arm.desk, hsome]

theorem desk_storeObjectInPocket
    (h : (storeObjectInPocket poseConfig out).run.run s = (.ok u, s')) :
    s'.desk = s.desk.after .breakOff ∨ s'.desk = s.desk.after .stow := by
  rw [storeObjectInPocket, run_modify_bind] at h
  obtain ⟨approach, s₁, happroach, h⟩ := returned_bind h
  have hdesk₁ := keeps_movePoseFromConfig _ _ _ _ _ _ _ _ happroach
  cases approach with
  | none =>
      obtain ⟨-, rfl⟩ := returned_pure h
      exact Or.inl hdesk₁
  | some approachEntry =>
      obtain ⟨_, s₂, hagain, h⟩ := returned_bind h
      have hdesk₂ := keeps_movePoseFromConfig _ _ _ _ _ _ _ _ hagain
      obtain ⟨drop, s₃, hdrop, h⟩ := returned_bind h
      have hdesk₃ := keeps_movePoseFromConfig _ _ _ _ _ _ _ _ hdrop
      cases drop with
      | none =>
          obtain ⟨-, rfl⟩ := returned_pure h
          exact Or.inl (hdesk₃.trans (hdesk₂.trans hdesk₁))
      | some dropEntry =>
          obtain ⟨_, s₄, hopen, h⟩ := returned_bind h
          have hdesk₄ := keeps_commandGripperIfUnset _ _ _ _ _ _ _ hopen
          obtain ⟨_, s₅, hretreat, h⟩ := returned_bind h
          have hdesk₅ := keeps_movePoseFromConfig _ _ _ _ _ _ _ _ hretreat
          rw [run_modify_bind] at h
          have hafter := returned_modify h
          subst hafter
          have hobj : s₅.objPose = s.objPose := congrArg Desk.objPose
            (hdesk₅.trans (hdesk₄.trans (hdesk₃.trans (hdesk₂.trans hdesk₁))))
          exact Or.inr (by simp [Arm.desk, Desk.after, hobj])

theorem desk_retrieveObjectFromPocket
    (h : (retrieveObjectFromPocket poseConfig out).run.run s = (.ok u, s')) :
    s'.desk = s.desk ∨ ∃ pose, s'.desk = s.desk.after (.retrieve pose) := by
  obtain ⟨approach, s₁, happroach, h⟩ := returned_bind h
  have hdesk₁ := keeps_movePoseFromConfig _ _ _ _ _ _ _ _ happroach
  cases approach with
  | none =>
      obtain ⟨-, rfl⟩ := returned_pure h
      exact Or.inl hdesk₁
  | some approachEntry =>
      obtain ⟨_, s₂, hopen, h⟩ := returned_bind h
      have hdesk₂ := keeps_commandGripperIfUnset _ _ _ _ _ _ _ hopen
      obtain ⟨grasp, s₃, hgrasp, h⟩ := returned_bind h
      have hdesk₃ := keeps_movePoseFromConfig _ _ _ _ _ _ _ _ hgrasp
      cases grasp with
      | none =>
          obtain ⟨-, rfl⟩ := returned_pure h
          exact Or.inl (hdesk₃.trans (hdesk₂.trans hdesk₁))
      | some graspEntry =>
          obtain ⟨_, s₄, hclose, h⟩ := returned_bind h
          have hdesk₄ := keeps_commandGripperIfUnset _ _ _ _ _ _ _ hclose
          obtain ⟨_, s₅, hretreat, h⟩ := returned_bind h
          have hdesk₅ := keeps_movePoseFromConfig _ _ _ _ _ _ _ _ hretreat
          rw [run_modify_bind] at h
          obtain ⟨_, s₆, hready, h⟩ := returned_bind h
          obtain ⟨-, rfl⟩ := returned_pure h
          have hstate : s'.objectState = .held := (run_goToTableReadyPose hready).2
          have hobj₅ : s₅.objPose = s.objPose := congrArg Desk.objPose
            (hdesk₅.trans (hdesk₄.trans (hdesk₃.trans (hdesk₂.trans hdesk₁))))
          have hobj : s'.objPose = s.objPose :=
            (keeps_goToTableReadyPose poseConfig out _ _ _ hready).trans hobj₅
          refine Or.inr ⟨s'.operatePose, ?_⟩
          simp [Arm.desk, Desk.after, hstate, hobj]

end Operations

/-! ### Branches -/

section Branches

variable {a : Answers F Geo} {s s' : Console F Geo}

omit [Arithmetic F] in
theorem returned_onArm {m : ArmM F α} {x : α} (h : (onArm m).run.run s = (.ok x, s')) :
    ∃ arm, m.run.run s.arm = (.ok x, arm) ∧ s' = { s with arm := arm } := by
  obtain ⟨r, s₁, hget, h⟩ := returned_bind h
  rw [run_modifyGet] at hget
  cases hget
  obtain ⟨hr, rfl⟩ := returned_ofExcept h
  exact ⟨(m.run.run s.arm).2, Prod.ext hr rfl, rfl⟩

omit [Arithmetic F] in
/-- A branch that ends with an operation of the arm. -/
theorem returned_armBranch {m : ArmM F α} {again : Bool}
    (h : (onArm m >>= fun _ => pure true : ConsoleM F Geo Bool).run.run s = (.ok again, s')) :
    ∃ x arm, m.run.run s.arm = (.ok x, arm) ∧ s' = { s with arm := arm } := by
  obtain ⟨x, s₁, harm, h⟩ := returned_bind h
  obtain ⟨-, rfl⟩ := returned_pure h
  exact ⟨x, returned_onArm harm⟩

omit [Arithmetic F] in
theorem keeps_onArm {m : ArmM F α} (h : Keeps Arm.desk m) :
    Keeps Console.desk (onArm m : ConsoleM F Geo α) := by
  intro s x s' hrun
  obtain ⟨arm, harm, rfl⟩ := returned_onArm hrun
  exact h _ _ _ harm

omit [Arithmetic F] in
theorem run_spin {arrivals : List (Arrival F)} {u : Unit}
    (h : (spin arrivals).run.run s = (.ok u, s')) :
    s'.desk = arrivals.foldl Desk.see s.desk ∧ s'.arm.commands = s.arm.commands := by
  induction arrivals generalizing s with
  | nil =>
      obtain ⟨-, rfl⟩ := returned_pure h
      exact ⟨rfl, rfl⟩
  | cons arrival arrivals ih =>
      obtain ⟨_, s₁, hfirst, h⟩ := returned_bind h
      obtain ⟨hdesk, hcommands⟩ := ih h
      rw [List.foldl_cons, hdesk, hcommands]
      cases arrival with
      | pose objPose =>
          obtain ⟨t, s₂, hok, hfirst⟩ := returned_bind hfirst
          obtain ⟨rfl, rfl⟩ := returned_ofExcept hok
          have hafter := returned_modify hfirst
          subst hafter
          exact ⟨rfl, rfl⟩
      | buttonPose => cases hfirst
      | floor six =>
          have hafter := returned_modify hfirst
          subst hafter
          exact ⟨rfl, rfl⟩

omit [Arithmetic F] in
theorem keeps_keepImage (a : Answers F Geo) (e : Exn) (image : Bool) :
    Keeps Console.desk (keepImage a e image : ConsoleM F Geo Unit) := by
  cases image with
  | false => exact keeps_throw _
  | true => exact keeps_ofExcept _

omit [Arithmetic F] in
theorem keeps_getObservation (a : Answers F Geo) (joints : Pose6 F) :
    Keeps Console.desk (getObservation a joints : ConsoleM F Geo Bool) := by
  intro s image s' h
  have hrun : (getObservation a joints).run.run s = (.ok a.image, { s with
      arm := { s.arm with commands := s.arm.commands ++ [.moveJ joints] } }) := rfl
  cases hrun.symm.trans h
  rfl

theorem desk_detectObject {u : Unit} (h : (detectObject a).run.run s = (.ok u, s')) :
    s'.desk = a.arrivals.foldl Desk.see s.desk := by
  obtain ⟨image, s₁, hobserve, h⟩ := returned_bind h
  obtain ⟨_, s₂, hmatrix, h⟩ := returned_bind h
  obtain ⟨_, s₃, hkeep, h⟩ := returned_bind h
  rw [(run_spin h).1, keeps_keepImage _ _ _ _ _ _ hkeep, (returned_ofExcept hmatrix).2,
    keeps_getObservation _ _ _ _ _ hobserve]

theorem keeps_detectButton (a : Answers F Geo) (e : Exn) :
    Keeps Console.desk (detectButton a e : ConsoleM F Geo _) := by
  refine (keeps_onArm (keeps_send _)).bind fun _ => (keeps_ofExcept _).bind fun _ => ?_
  refine (keeps_getObservation a _).bind fun image => (keeps_ofExcept _).bind fun _ => ?_
  exact (keeps_keepImage a e image).bind fun _ => keeps_ofExcept _

theorem keeps_pressButton (out : Outcomes F) (xBias yBias zBias : F) :
    Keeps Arm.desk (MobileManipulator.pressButton out xBias yBias zBias) := by
  refine (keeps_direct _ _ _).bind fun _ => keeps_get.bind fun s => ?_
  cases s.buttonPose with
  | none => exact keeps_pure ()
  | some t =>
      refine keeps_get.bind fun s => ?_
      cases s.cardPose with
      | none => exact keeps_pure ()
      | some c =>
          exact (keeps_direct _ _ _).bind fun _ => (keeps_direct _ _ _).bind fun _ =>
            keeps_direct _ _ _

theorem keeps_pressButtonUp (out : Outcomes F) (xBias yBias zBias : F) :
    Keeps Arm.desk (MobileManipulator.pressButtonUp out xBias yBias zBias) := by
  refine (keeps_direct _ _ _).bind fun _ => keeps_get.bind fun s => ?_
  cases s.buttonPose with
  | none => exact keeps_pure ()
  | some t => exact keeps_direct _ _ _

theorem keeps_moveToRestorePose (a : Answers F Geo) :
    Keeps Console.desk (moveToRestorePose a : ConsoleM F Geo Unit) :=
  (keeps_onArm (keeps_send _)).bind fun _ => keeps_ofExcept _

omit [Arithmetic F] in
theorem keeps_moveGripper (a : Answers F Geo) (position : ℤ) :
    Keeps Console.desk (moveGripper a position : ConsoleM F Geo Unit) :=
  (keeps_onArm (keeps_send _)).bind fun _ => keeps_ofExcept _

omit [Arithmetic F] in
theorem keeps_navToObj (a : Answers F Geo) (location : Option Geo) :
    Keeps Console.desk (navToObj a location : ConsoleM F Geo Unit) := by
  refine Keeps.bind (keeps_modify ?_) fun _ => keeps_ofExcept _
  exact fun _ => rfl

/-- The branches that neither spin nor have to do with the object. -/
theorem keeps_handle {poseConfig : PoseConfig F} {b : Branch} (hb : b.Live)
    (hspins : b.spins = false) (h : b ∉ [.place, .stow, .retrieve]) :
    Keeps Console.desk (b.handle poseConfig a hb) := by
  have htrue : Keeps Console.desk (pure true : ConsoleM F Geo Bool) := keeps_pure true
  cases b with
  | pickTable => exact keeps_get.bind fun _ => (keeps_navToObj a _).bind fun _ => htrue
  | placeTable => exact keeps_get.bind fun _ => (keeps_navToObj a _).bind fun _ => htrue
  | printArmPose => exact (keeps_ofExcept _).bind fun _ => htrue
  | closeGripper => exact (keeps_moveGripper a 0).bind fun _ => htrue
  | openGripper => exact (keeps_moveGripper a 1000).bind fun _ => htrue
  | printGripper => exact (keeps_ofExcept _).bind fun _ => htrue
  | pressButton =>
      refine (keeps_detectButton a _).bind fun ⟨pose, card⟩ => Keeps.bind (keeps_modify ?_) fun _ =>
        (keeps_onArm (keeps_pressButton _ _ _ _)).bind fun _ =>
          (keeps_moveToRestorePose a).bind fun _ => htrue
      exact fun _ => rfl
  | pressButtonUp =>
      refine (keeps_detectButton a _).bind fun ⟨pose, card⟩ => Keeps.bind (keeps_modify ?_) fun _ =>
        (keeps_onArm (keeps_pressButtonUp _ _ _ _)).bind fun _ =>
          (keeps_moveToRestorePose a).bind fun _ => htrue
      exact fun _ => rfl
  | recLoc =>
      refine Keeps.bind (keeps_modify ?_) fun _ => (keeps_ofExcept _).bind fun _ => htrue
      exact fun _ => rfl
  | quit => exact keeps_pure false
  | invalid => exact htrue
  | waitOutOfElevator => exact absurd rfl hb.1
  | deliver => exact absurd rfl hb.2
  | printOdom | setPickTable | setPlaceTable | grasp | resetGrasp => cases hspins
  | place | stow | retrieve => simp at h

/-- A branch that the loop survives comes down to the messages it waits for and one deed. -/
theorem desk_handle {poseConfig : PoseConfig F} {b : Branch} (hb : b.Live) {again : Bool}
    (h : (b.handle poseConfig a hb).run.run s = (.ok again, s')) :
    ∃ d : Deed F, d.Allowed b ∧ s'.desk = ((b.awaited a).foldl Desk.see s.desk).after d := by
  cases b with
  | printOdom =>
      obtain ⟨_, s₁, hspin, h⟩ := returned_bind h
      obtain ⟨-, rfl⟩ := returned_pure h
      exact ⟨.nothing, by simp [Deed.Allowed], (run_spin hspin).1⟩
  | setPickTable =>
      obtain ⟨_, s₁, hspin, h⟩ := returned_bind h
      rw [run_modify_bind] at h
      obtain ⟨-, rfl⟩ := returned_pure h
      exact ⟨.nothing, by simp [Deed.Allowed], (run_spin hspin).1⟩
  | setPlaceTable =>
      obtain ⟨_, s₁, hspin, h⟩ := returned_bind h
      rw [run_modify_bind] at h
      obtain ⟨-, rfl⟩ := returned_pure h
      exact ⟨.nothing, by simp [Deed.Allowed], (run_spin hspin).1⟩
  | grasp =>
      obtain ⟨_, s₁, hdetect, h⟩ := returned_bind h
      obtain ⟨_, arm, hgrasp, rfl⟩ := returned_armBranch h
      have hdesk : arm.desk = s₁.desk.after .grasp := desk_graspObj hgrasp
      rw [desk_detectObject hdetect] at hdesk
      exact ⟨.grasp, rfl, hdesk⟩
  | resetGrasp =>
      obtain ⟨_, s₁, hdetect, h⟩ := returned_bind h
      obtain ⟨_, arm, hreset, rfl⟩ := returned_armBranch h
      have hdesk : arm.desk = s₁.desk.after .reset := desk_resetGraspPose hreset
      rw [desk_detectObject hdetect] at hdesk
      exact ⟨.reset, rfl, hdesk⟩
  | place =>
      obtain ⟨_, arm, hplace, rfl⟩ := returned_armBranch h
      exact ⟨.place, rfl, desk_placeAtFixedHeight hplace⟩
  | stow =>
      obtain ⟨_, arm, hstow, rfl⟩ := returned_armBranch h
      rcases desk_storeObjectInPocket hstow with hbroken | hstowed
      · exact ⟨.breakOff, rfl, hbroken⟩
      · exact ⟨.stow, rfl, hstowed⟩
  | retrieve =>
      obtain ⟨_, arm, hretrieve, rfl⟩ := returned_armBranch h
      rcases desk_retrieveObjectFromPocket hretrieve with hsame | ⟨pose, hretrieved⟩
      · exact ⟨.nothing, by simp [Deed.Allowed], hsame⟩
      · exact ⟨.retrieve pose, rfl, hretrieved⟩
  | _ =>
      exact ⟨.nothing, by simp [Deed.Allowed], keeps_handle hb rfl (by simp) _ _ _ h⟩

/-- The messages of one round that have come through, and the deed of its key. -/
def Desk.round (d : Desk F) (x : Deed F × Press F Geo) : Desk F :=
  ((x.2.spun ++ x.2.branch.awaited x.2.answers).foldl Desk.see d).after x.1

theorem desk_press {poseConfig : PoseConfig F} {p : Press F Geo} {again : Bool}
    (h : (p.handle poseConfig).run.run s = (.ok again, s')) :
    ∃ d : Deed F, d.Allowed p.branch ∧ s'.desk = s.desk.round (d, p) := by
  obtain ⟨_, s₁, hspin, hhandle⟩ := returned_bind h
  obtain ⟨d, hallowed, hdesk⟩ := desk_handle p.branch_live hhandle
  refine ⟨d, hallowed, ?_⟩
  rw [hdesk, (run_spin hspin).1, Desk.round, List.foldl_append]

/-- The whole session comes down to one deed for each key. -/
theorem desk_session {poseConfig : PoseConfig F} {ps : List (Press F Geo)}
    (h : (session poseConfig ps).run.run s = (.ok true, s')) :
    ∃ rounds : List (Deed F × Press F Geo), rounds.map Prod.snd = ps ∧
      (∀ x ∈ rounds, x.1.Allowed x.2.branch) ∧ s'.desk = rounds.foldl Desk.round s.desk := by
  induction ps generalizing s with
  | nil =>
      obtain ⟨-, rfl⟩ := returned_pure h
      exact ⟨[], rfl, by simp, rfl⟩
  | cons p ps ih =>
      obtain ⟨again, s₁, hpress, h⟩ := returned_bind h
      cases again with
      | false => cases (returned_pure h).1
      | true =>
          obtain ⟨d, hallowed, hdesk⟩ := desk_press hpress
          obtain ⟨rounds, hps, hrounds, hrest⟩ := ih h
          refine ⟨(d, p) :: rounds, ?_, ?_, ?_⟩
          · rw [List.map_cons, hps]
          · exact List.forall_mem_cons.mpr ⟨hallowed, hrounds⟩
          · rw [hrest, hdesk, List.foldl_cons]

/-- The key for placing, pressed in the console `s`. -/
theorem run_place {poseConfig : PoseConfig F} {p : Press F Geo} {again : Bool}
    (hp : p.branch = .place) (h : (p.handle poseConfig).run.run s = (.ok again, s')) :
    s'.arm.commands = s.arm.commands ++ s.arm.operatePose.elim [] placing := by
  obtain ⟨_, s₁, hspin, hhandle⟩ := returned_bind h
  obtain ⟨hdesk, hcommands⟩ := run_spin hspin
  have hoperate : s₁.arm.operatePose = s.arm.operatePose := by
    have hsee := (foldl_see p.spun s.desk).2
    rw [← hdesk] at hsee
    exact hsee
  have hplace : ∀ (b : Branch) (hb : b.Live), b = .place →
      (b.handle poseConfig p.answers hb).run.run s₁ = (.ok again, s') →
      ∃ r arm, (placeAtFixedHeight p.answers.out 0.75).run.run s₁.arm = (.ok r, arm) ∧
        s' = { s₁ with arm := arm } := by
    rintro b hb rfl hrun
    exact returned_armBranch hrun
  obtain ⟨r, arm, hrun, rfl⟩ := hplace _ p.branch_live hp hhandle
  rw [← hoperate, ← hcommands]
  rcases run_placeAtFixedHeight hrun with ⟨hnone, rfl⟩ | ⟨pose, hsome, rfl⟩
  · simp [hnone]
  · simp [hsome]

end Branches

/-! ## Whole sessions -/

omit [Arithmetic F] in
/-- The grasp pose was set anew after the object had been stowed. -/
def ResetAfterStow (ps : List (Press F Geo)) : Prop :=
  ∃ before p after, ps = before ++ p :: after ∧ p.branch = .stow ∧
    ∃ q ∈ after, q.branch = .resetGrasp

omit [Arithmetic F] in
theorem ResetAfterStow.cons {ps : List (Press F Geo)} (p : Press F Geo) (h : ResetAfterStow ps) :
    ResetAfterStow (p :: ps) := by
  obtain ⟨before, q, after, rfl, hstow, hreset⟩ := h
  exact ⟨p :: before, q, after, rfl, hstow, hreset⟩

/-- A stowed object can be placed only if it was stowed at the start or the pose was reset. -/
theorem stowed_foldl (rounds : List (Deed F × Press F Geo)) (d : Desk F)
    (h : ∀ x ∈ rounds, x.1.Allowed x.2.branch)
    (hstowed : (rounds.foldl Desk.round d).objectState = .stowed)
    (hsome : (rounds.foldl Desk.round d).operatePose.isSome) :
    ResetAfterStow (rounds.map Prod.snd) ∨ d.objectState = .stowed ∧
      (d.operatePose.isSome ∨ ∃ q ∈ rounds.map Prod.snd, q.branch = .resetGrasp) := by
  induction rounds generalizing d with
  | nil => exact Or.inr ⟨hstowed, Or.inl hsome⟩
  | cons x rounds ih =>
      obtain ⟨deed, p⟩ := x
      obtain ⟨hallowed, hrounds⟩ := List.forall_mem_cons.mp h
      obtain ⟨hsame, hoperate⟩ := foldl_see (p.spun ++ p.branch.awaited p.answers) d
      rw [← hsame, ← hoperate]
      have hrest := ih (d.round (deed, p)) hrounds hstowed hsome
      rw [Desk.round] at hrest
      generalize List.foldl Desk.see d (p.spun ++ p.branch.awaited p.answers) = seen at hrest ⊢
      rw [List.map_cons]
      rcases hrest with hreset | ⟨hstate, hpose⟩
      · exact Or.inl (hreset.cons p)
      -- the deed came before the object was stowed for good, or left it stowed
      · have hlater : (∃ q ∈ rounds.map Prod.snd, q.branch = .resetGrasp) →
            ∃ q ∈ p :: rounds.map Prod.snd, q.branch = .resetGrasp :=
          fun ⟨q, hq, hbranch⟩ => ⟨q, List.mem_cons_of_mem _ hq, hbranch⟩
        cases deed with
        | nothing => exact Or.inr ⟨hstate, hpose.imp_right hlater⟩
        | grasp =>
            cases hobj : seen.objPose with
            | none =>
                simp only [Desk.after, hobj] at hstate hpose
                exact Or.inr ⟨hstate, hpose.imp_right hlater⟩
            | some t => simp [Desk.after, hobj] at hstate
        | place =>
            by_cases hplaced : seen.operatePose.isSome
            · simp [Desk.after, hplaced] at hstate
            · simp only [Desk.after, hplaced] at hstate hpose
              exact Or.inr ⟨hstate, hpose.imp_right hlater⟩
        | breakOff => cases hstate
        | stow =>
            rcases hpose with hnone | hreset
            · cases hnone
            · exact Or.inl ⟨[], p, _, rfl, hallowed, hreset⟩
        | retrieve pose => cases hstate
        | reset =>
            refine Or.inr ⟨?_, Or.inr ⟨p, List.mem_cons_self, hallowed⟩⟩
            cases hobj : seen.objPose with
            | none => simpa [Desk.after, hobj] using hstate
            | some t => simpa [Desk.after, hobj] using hstate

/-- After any session the key for placing goes to where the object was last grasped, retrieved
or its pose reset, and does nothing if there is no such place.  As long as the object is stowed
that means: nothing, unless its pose has been reset since. -/
theorem placed_where_picked {poseConfig : PoseConfig F} {ps : List (Press F Geo)}
    {s s₁ s₂ : Console F Geo} {p : Press F Geo} {again : Bool}
    (hstart : s.arm.objectState ≠ .stowed)
    (hps : (session poseConfig ps).run.run s = (.ok true, s₁))
    (hp : p.branch = .place) (h : (p.handle poseConfig).run.run s₁ = (.ok again, s₂)) :
    ∃ rounds : List (Deed F × Press F Geo), rounds.map Prod.snd = ps ∧
      (∀ x ∈ rounds, x.1.Allowed x.2.branch) ∧ s₁.desk = rounds.foldl Desk.round s.desk ∧
      s₂.desk = s₁.desk.round (.place, p) ∧
      s₂.arm.commands = s₁.arm.commands ++
        (rounds.foldl Desk.round s.desk).operatePose.elim [] placing ∧
      (s₁.arm.objectState = .stowed → s₂.arm.commands = s₁.arm.commands ∨ ResetAfterStow ps) := by
  obtain ⟨rounds, hrounds, hallowed, hdesk⟩ := desk_session hps
  have hcommands := run_place hp h
  refine ⟨rounds, hrounds, hallowed, hdesk, ?_, ?_, fun hstowed => ?_⟩
  · obtain ⟨d, hd, hround⟩ := desk_press h
    rw [hp] at hd
    rw [hround, eq_place_of_allowed hd]
  · rw [hcommands, ← hdesk]
    rfl
  · cases hpose : s₁.arm.operatePose with
    | none =>
        rw [hcommands, hpose]
        exact Or.inl (List.append_nil _)
    | some pose =>
        have hsome : s₁.desk.operatePose.isSome := Option.isSome_of_eq_some hpose
        have hstate : s₁.desk.objectState = .stowed := hstowed
        rw [hdesk] at hsome hstate
        rcases stowed_foldl rounds s.desk hallowed hstate hsome with hreset | ⟨hs, -⟩
        · exact Or.inr (hrounds ▸ hreset)
        · exact absurd hs hstart

end Desk

/-! ## An object in the pocket -/

/-- A key at a robot that succeeds in everything and detects the same object. -/
def press (key : Char) : Press Exact Unit where
  spun := []
  key := some key.toNat
  answers :=
    { out := allSucceed
      arrivals := [.pose (.ok ⟨.rat 1, .rat 0, .rat 0⟩)]
      base := .ok ()
      odom := none
      image := true
      rtMatrix := .ok ()
      kept := .ok ()
      yolo := .error .attributeError
      gripper := .ok ()
      before := .ok ()
      after := .ok () }

def Console.init : Console Exact Unit := ⟨Arm.init, false, none, none, []⟩

def pocketed : Console Exact Unit :=
  ((session defaultConfig [press '3', press 'b']).run.run Console.init).2

def left : Console Exact Unit := (((press '4').handle defaultConfig).run.run pocketed).2

theorem run_eq_of_toOption {m : ConsoleM Exact Unit Bool} {s : Console Exact Unit} {b : Bool}
    (h : (m.run.run s).1.toOption = some b) : m.run.run s = (.ok b, (m.run.run s).2) := by
  rcases hrun : m.run.run s with ⟨e | a, s'⟩
  · rw [hrun] at h
    cases h
  · rw [hrun] at h
    cases h
    rfl

/-- What was grasped and put into the pocket is not placed. -/
theorem placed_where_picked_pocket :
    pocketed.arm.objectState = .stowed ∧ left.arm.commands = pocketed.arm.commands := by
  have hstowed : pocketed.arm.objectState = .stowed := by decide +kernel
  have hps : (session defaultConfig [press '3', press 'b']).run.run Console.init =
      (.ok true, pocketed) := run_eq_of_toOption (by decide +kernel)
  have hplace : ((press '4').handle defaultConfig).run.run pocketed = (.ok true, left) :=
    run_eq_of_toOption (by decide +kernel)
  obtain ⟨_, _, _, _, _, _, hpocket⟩ := placed_where_picked (by decide) hps (by decide) hplace
  refine ⟨hstowed, ?_⟩
  rcases hpocket hstowed with hsame | ⟨_, _, _, heq, _, q, hq, hreset⟩
  · exact hsame
  · have hmem : q ∈ [press '3', press 'b'] := by
      rw [heq]
      simp [hq]
    rcases List.mem_pair.mp hmem with rfl | rfl
    all_goals exact absurd hreset (by decide)

end Ros2WsDemo.MobileManipulator

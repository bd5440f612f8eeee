import Mathlib.Data.List.Infix
import Mathlib.Data.List.TakeWhile
import Ros2WsDemo.Dedupe.Commands
import Ros2WsDemo.Lib.ExactFloat

/-!
# Which operation a command dispatches to

The commands of the planner are a verb, a colon, a blank and an argument.
`execute_command` looks for the verbs in the whole text, one after the other, and cuts
the text at its last colon.
-/

namespace Ros2WsDemo.DedupePlan

open Python ExceptState
open MobileManipulator (Pose6 Translation obsJoint holdJoint)
open Planner (isIn)

/-! ## Verbs and operations -/

inductive Verb where
  | observe
  | goTo
  | pick
  | place
  deriving DecidableEq

inductive Operation where
  | observe
  | goTo (obj : Str)
  | pick
  | place

namespace Verb

def word : Verb → Str
  | observe => "observe"
  | goTo => "go to"
  | pick => "pick"
  | place => "place"

/-- `<verb>: ` -/
def head (verb : Verb) : Str := verb.word ++ Str.ofString ": "

def command (verb : Verb) (argument : Str) : Str := verb.head ++ argument

def operation : Verb → Str → Operation
  | observe, _ => .observe
  | goTo, obj => .goTo obj
  | pick, _ => .pick
  | place, _ => .place

theorem eq_of_operation_eq {verb verb' : Verb} {obj obj' : Str}
    (h : verb.operation obj = verb'.operation obj') : verb = verb' := by
  cases verb <;> cases verb' <;> first | rfl | cases h

/-- The verbs that are looked for before this one. -/
def before : Verb → List Verb
  | observe => []
  | goTo => [observe]
  | pick => [observe, goTo]
  | place => [observe, goTo, pick]

end Verb

section Operations

variable {F W : Type} [Arithmetic F]

def Operation.body (robot : Robot F W) : Operation → CommandM F W Unit
  | .observe => do
      let image ← getObservation robot
      command robot .getRTMatrix
      deliverImage robot image
  | .goTo obj => command robot (.navToObj obj)
  | .pick => do
      waitForPose robot
      graspObj robot 26.08 (-18.985) 10.0
  | .place => placeAtFixedHeight robot 0.75

/-- The operation on its own, with the result that `execute_command` gives it. -/
def Operation.executed (robot : Robot F W) (operation : Operation) (s : Manipulator F W) :
    Bool × Manipulator F W :=
  match (operation.body robot).run.run s with
  | (.ok _, s') => (true, s')
  | (.error _, s') => (false, s')

def verbOf (text : Str) : Option Verb :=
  if isIn Verb.observe.word text then some .observe
  else if isIn Verb.goTo.word text then some .goTo
  else if isIn Verb.pick.word text then some .pick
  else if isIn Verb.place.word text then some .place
  else none

theorem executeCommand_of_verbOf (robot : Robot F W) {text : Str} {verb : Verb}
    (h : verbOf text = some verb) (s : Manipulator F W) :
    executeCommand robot text s = (verb.operation (target text)).executed robot s := by
  have hbody : dispatch robot text = (verb.operation (target text)).body robot := by
    unfold verbOf Verb.word at h
    unfold dispatch
    split_ifs at h ⊢ <;> cases h <;> rfl
  unfold executeCommand Operation.executed
  generalize dispatch robot text = body at hbody ⊢
  subst hbody
  rfl

end Operations

/-! ## Verbs in a command -/

theorem isIn_iff {keyword text : Str} : isIn keyword text = true ↔ keyword <:+: text := by
  simp only [isIn, List.any_eq_true, List.isPrefixOf_iff_prefix]
  constructor
  · rintro ⟨t, ht, hprefix⟩
    exact hprefix.isInfix.trans ((List.mem_tails t text).1 ht).isInfix
  · intro h
    obtain ⟨t, hprefix, hsuffix⟩ := List.infix_iff_prefix_suffix.1 h
    exact ⟨t, (List.mem_tails t text).2 hsuffix, hprefix⟩

/-- A keyword that cannot begin inside the head is found in the head or behind it. -/
theorem isIn_append {keyword head text : Str}
    (hclear : ∀ p ∈ keyword.inits, p <:+ head → p = [] ∨ p = keyword) :
    isIn keyword (head ++ text) = true ↔
      isIn keyword head = true ∨ isIn keyword text = true := by
  simp only [isIn_iff, List.infix_append_iff_ne_nil, ← or_assoc]
  refine or_iff_left ?_
  rintro ⟨p, q, hp, hq, rfl, hsuffix, -⟩
  rcases hclear p ((List.mem_inits p _).2 (List.prefix_append p q)) hsuffix with hnil | hall
  · exact hp hnil
  · exact hq (List.self_eq_append_right.1 hall)

theorem isIn_word_command (verb verb' : Verb) (argument : Str) :
    isIn verb.word (verb'.command argument) = true ↔
      verb = verb' ∨ isIn verb.word argument = true := by
  have hclear : ∀ p ∈ verb.word.inits, p <:+ verb'.head → p = [] ∨ p = verb.word := by
    cases verb <;> cases verb' <;> decide +kernel
  have hhead : isIn verb.word verb'.head = true ↔ verb = verb' := by
    cases verb <;> cases verb' <;> decide +kernel
  rw [Verb.command, isIn_append hclear, hhead]

theorem verbOf_command_iff (verb : Verb) (argument : Str) :
    verbOf (verb.command argument) = some verb ↔
      ∀ v ∈ verb.before, ¬ isIn v.word argument = true := by
  cases verb <;> simp only [verbOf, isIn_word_command, Verb.before, List.forall_mem_cons] <;>
    split_ifs <;> simp_all

theorem exists_verbOf_command (verb : Verb) (argument : Str) :
    ∃ verb', verbOf (verb.command argument) = some verb' := by
  have hself := (isIn_word_command verb verb argument).2 (Or.inl rfl)
  unfold verbOf
  split_ifs
  case neg => cases verb <;> contradiction
  all_goals exact ⟨_, rfl⟩

/-! ## The target -/

theorem target_append_cons {p t : Str} (h : 58 ∉ t) :
    target (p ++ 58 :: t) = t.dropWhile isSpace := by
  unfold target
  rw [rfind_append_cons h]
  simp only [List.drop_append, List.drop_eq_nil_of_le (Nat.le_succ p.length), List.nil_append,
    Nat.add_sub_cancel_left, List.drop_succ_cons, List.drop_zero]

theorem not_mem_target {text : Str} (h : 58 ∈ text) : 58 ∉ target text := by
  obtain ⟨t, p, heq, ht⟩ := List.eq_append_cons_of_mem (List.mem_reverse.2 h)
  have htext : text = p.reverse ++ 58 :: t.reverse := by
    rw [← List.reverse_reverse text, heq]
    simp
  rw [htext, target_append_cons (by simpa using ht)]
  intro hmem
  exact ht (List.mem_reverse.1 ((List.dropWhile_suffix _).subset hmem))

theorem mem_dropWhile_isSpace {text : Str} (h : 58 ∈ text) : 58 ∈ text.dropWhile isSpace := by
  rw [← List.takeWhile_append_dropWhile (p := isSpace) (l := text), List.mem_append] at h
  refine h.resolve_left fun htake => ?_
  have hspace : isSpace 58 = true := List.mem_takeWhile_imp htake
  exact absurd hspace (by decide)

theorem target_command_iff (verb : Verb) (argument : Str) :
    target (verb.command argument) = argument.dropWhile isSpace ↔ 58 ∉ argument := by
  have hsplit : verb.command argument = verb.word ++ 58 :: 32 :: argument := by
    simp only [Verb.command, Verb.head, List.append_assoc]
    rfl
  constructor
  · intro htarget hmem
    have hcolon : 58 ∈ verb.command argument := by rw [hsplit]; simp
    exact not_mem_target hcolon (htarget ▸ mem_dropWhile_isSpace hmem)
  · intro hmem
    rw [hsplit, target_append_cons (by simpa using hmem), List.dropWhile_cons_of_pos (by decide)]

/-! ## The grammar -/

section Grammar

variable {F : Type} [Arithmetic F]

/-- A robot that does everything and detects an object at once. -/
def readyRobot : Robot F Unit where
  perform _ w := (.ok true, w)
  awaitPose w := (.ok (some ⟨⟨0.0, 0.0, 0.0⟩, .ok ()⟩), w)

/-- An operate pose is there for placing. -/
def readyManipulator : Manipulator F Unit :=
  ⟨(), none, some ⟨0.0, 0.0, 0.0, 0.0, 0.0, 0.0⟩, .empty, []⟩

theorem executed_readyRobot (operation : Operation) :
    ∃ actions : List (Action F),
      (operation.executed readyRobot readyManipulator).2.actions.map Prod.fst = actions ∧
      match operation with
      | .observe => actions.length = 4 ∧ actions.head? = some (.moveJ obsJoint)
      | .goTo obj => actions = [.navToObj obj]
      | .pick => actions.length = 6
      | .place => actions.length = 4 ∧ ∃ pose, actions.head? = some (.moveJPose pose) := by
  refine ⟨_, rfl, ?_⟩
  cases operation with
  | observe => exact ⟨rfl, rfl⟩
  | goTo obj => rfl
  | pick => rfl
  | place => exact ⟨rfl, _, rfl⟩

/-- The ready robot tells the operations apart, and the objects that are gone to. -/
theorem executed_injective {operation operation' : Operation}
    (h : operation.executed (F := F) readyRobot readyManipulator =
      operation'.executed readyRobot readyManipulator) : operation = operation' := by
  obtain ⟨actions, hactions, hcase⟩ := executed_readyRobot (F := F) operation
  obtain ⟨actions', hactions', hcase'⟩ := executed_readyRobot (F := F) operation'
  have heq : actions = actions' := by rw [← hactions, ← hactions', h]
  subst heq
  cases operation <;> cases operation' <;> simp_all

/-- The command performs the operation of its verb, whatever the robot answers. -/
def FollowsGrammar (F : Type) [Arithmetic F] (verb : Verb) (argument : Str) : Prop :=
  ∀ (W : Type) (robot : Robot F W) (s : Manipulator F W),
    executeCommand robot (verb.command argument) s =
      (verb.operation (argument.dropWhile isSpace)).executed robot s

theorem followsGrammar_iff_operation (verb : Verb) (argument : Str) :
    FollowsGrammar F verb argument ↔ verbOf (verb.command argument) = some verb ∧
      verb.operation (target (verb.command argument)) =
        verb.operation (argument.dropWhile isSpace) := by
  constructor
  · intro hall
    obtain ⟨verb', hverb⟩ := exists_verbOf_command verb argument
    have hready := hall Unit readyRobot readyManipulator
    rw [executeCommand_of_verbOf _ hverb] at hready
    have hoperation := executed_injective hready
    obtain rfl := Verb.eq_of_operation_eq hoperation
    exact ⟨hverb, hoperation⟩
  · rintro ⟨hverb, hoperation⟩ W robot s
    rw [executeCommand_of_verbOf robot hverb, hoperation]

/-- A command follows the grammar exactly if no verb that is looked for earlier is in its
argument and, for `go to`, no colon either. -/
theorem followsGrammar_iff (verb : Verb) (argument : Str) :
    FollowsGrammar F verb argument ↔
      (∀ v ∈ verb.before, ¬ isIn v.word argument = true) ∧ (verb = .goTo → 58 ∉ argument) := by
  rw [followsGrammar_iff_operation, verbOf_command_iff]
  refine and_congr_right fun _ => ?_
  cases verb with
  | goTo => simp [Verb.operation, target_command_iff]
  | observe | pick | place => simp [Verb.operation]

end Grammar

/-- `pick: go to box` makes the base go to `go to box`. -/
theorem pick_goes :
    ¬ ∀ (verb : Verb) (argument : Str), FollowsGrammar Exact verb argument := by
  intro hall
  have hverb := ((followsGrammar_iff_operation _ _).1 (hall .pick "go to box")).1
  exact (verbOf_command_iff .pick "go to box").1 hverb .goTo (by decide) (by decide +kernel)

end Ros2WsDemo.DedupePlan

import Ros2WsDemo.Grasp.HeldObject

/-!
# Aborted stows

What `store_object_in_pocket` does to `object_state`, for every state before the call,
every pose configuration and every answer of the robot.  The first statement assigns
`held`, so that the test behind it never fails.
-/

namespace Ros2WsDemo.MobileManipulator

open Python ExceptState

section Model

variable {F : Type}

/-! ## Moves that return -/

section Moves

variable [Builtins F] {poseConfig : PoseConfig F} {out : Outcomes F} {s : Arm F}

/-- The entry of `move` cannot be read: one of its numbers is too large for a float. -/
def Unreadable (poseConfig : PoseConfig F) (move : ConfigMove) : Prop :=
  ∃ e, fetchPoseEntry poseConfig move.key.1 move.key.2 = .error e

/-- Behind the entry, exceptions are caught. -/
theorem movePoseFromConfig_returns {move : ConfigMove} {r : Option (PoseEntry F)}
    (h : fetchPoseEntry poseConfig move.key.1 move.key.2 = .ok r) :
    Triple (fun _ => True) (movePoseFromConfig poseConfig out move move.key.1 move.key.2)
      (fun _ _ => True) fun _ => False := by
  have hpure (r : Option (PoseEntry F)) : Triple (fun _ => True) (pure r : ArmM F _)
      (fun _ _ => True) fun _ => False := Triple.pure fun _ _ => trivial
  have hsend (c : Command F) : Triple (fun _ => True) (send c) (fun _ _ => True) fun _ => False :=
    Triple.modify fun _ _ => trivial
  unfold movePoseFromConfig
  rw [h]
  refine (hpure r).bind fun r => ?_
  cases r with
  | none => exact hpure none
  | some entry =>
      refine (hsend _).bind fun _ => ?_
      split
      · exact hpure none
      · split
        · exact hpure _
        · split
          · exact hpure none
          · refine (hsend _).bind fun _ => ?_
            split <;> exact hpure _

variable (poseConfig out) in
/-- A stored move raises before it sends anything, or it returns. -/
theorem run_movePoseFromConfig_cases (move : ConfigMove) {key : Str} {subkey : Option Str}
    (hkey : move.key = (key, subkey)) (s : Arm F) :
    (Unreadable poseConfig move ∧ ∃ e,
      (movePoseFromConfig poseConfig out move key subkey).run.run s = (.error e, s)) ∨
    (¬ Unreadable poseConfig move ∧ ∃ s',
      (movePoseFromConfig poseConfig out move key subkey).run.run s =
        (.ok (executed poseConfig out move), s') ∧ s'.objectState = s.objectState) := by
  obtain rfl : move.key.1 = key := congrArg Prod.fst hkey
  obtain rfl : move.key.2 = subkey := congrArg Prod.snd hkey
  unfold Unreadable
  cases hfetch : fetchPoseEntry poseConfig move.key.1 move.key.2 with
  | error e =>
      refine .inl ⟨⟨e, rfl⟩, e, ?_⟩
      unfold movePoseFromConfig
      rw [hfetch, run_bind]
      rfl
  | ok r =>
      refine .inr ⟨by simp, ?_⟩
      rcases hrun : (movePoseFromConfig poseConfig out move move.key.1 move.key.2).run.run s with
        ⟨e | r', s'⟩
      · exact ((movePoseFromConfig_returns hfetch s trivial).2 e s' hrun).elim
      · obtain ⟨hentry, -, hstate⟩ := run_movePoseFromConfig move hrun
        exact ⟨s', by rw [hentry], hstate⟩

/-! ## The law -/

/-- The moves up to and including the drop, in their order. -/
def stowMoves : List ConfigMove := [.storeApproach, .storeApproachAgain, .storeDrop]

/-- A move that the code takes for a failure ends the call early. -/
def EndsEarly (poseConfig : PoseConfig F) (out : Outcomes F) : Prop :=
  executed poseConfig out .storeApproach = none ∨ executed poseConfig out .storeDrop = none

/-- An exception leaves the call: from an entry, or from the gripper that is opened
because the entry of the drop does not say what it shall do. -/
def StowRaises (poseConfig : PoseConfig F) (out : Outcomes F) : Prop :=
  Unreadable poseConfig .storeApproach ∨
    (executed poseConfig out .storeApproach).isSome ∧
      (Unreadable poseConfig .storeDrop ∨
        ∃ dropEntry, executed poseConfig out .storeDrop = some dropEntry ∧
          (dropEntry.gripper = none ∧ (∃ e, out.direct 0 = .error e) ∨
            Unreadable poseConfig .storeRetreat))

end Moves

section Law

variable [Arithmetic F]

/-- `reported` says which moves the arm and the gripper report as done; the code does not
look at these reports. -/
structure StowLaw (poseConfig : PoseConfig F) (out : Outcomes F) (reported : ConfigMove → Bool)
    (s : Arm F) : Prop where
  aborted : ∀ s', (storeObjectInPocket poseConfig out).run.run s = (.ok (), s') →
    EndsEarly poseConfig out → s'.objectState = s.objectState
  stowed : ∀ r s', (storeObjectInPocket poseConfig out).run.run s = (r, s') →
    s'.objectState = .stowed →
      s.objectState = .stowed ∧ EndsEarly poseConfig out ∨
        s.objectState = .held ∧ ∀ move ∈ stowMoves,
          (executed poseConfig out move).isSome ∧ reported move = true

variable {poseConfig : PoseConfig F} {out : Outcomes F}

variable (out) in
omit [Arithmetic F] in
theorem run_commandGripperIfUnset_cases (i : ℕ) (entry : PoseEntry F) (n : ℤ) (s : Arm F) :
    ∃ r s', (commandGripperIfUnset out i entry n).run.run s = (r, s') ∧
      s'.objectState = s.objectState ∧
      ((∃ e, r = .error e) ↔ entry.gripper = none ∧ ∃ e, out.direct i = .error e) := by
  unfold commandGripperIfUnset
  cases hgripper : entry.gripper with
  | some x => exact ⟨.ok (), s, rfl, rfl, by simp⟩
  | none =>
      cases hdirect : out.direct i with
      | ok u =>
          refine ⟨.ok (), { s with commands := s.commands ++ [.gripper n] }, ?_, rfl, by simp⟩
          simp only [Option.isNone_none, if_true, direct, send, run_modify_bind, hdirect]
          rfl
      | error e =>
          refine ⟨.error e, { s with commands := s.commands ++ [.gripper n] }, ?_, rfl, by simp⟩
          simp only [Option.isNone_none, if_true, direct, send, run_modify_bind, hdirect]
          rfl

def afterDrop (poseConfig : PoseConfig F) (out : Outcomes F) (dropEntry : PoseEntry F) :
    ArmM F Unit := do
  commandGripperIfUnset out 0 dropEntry 1000
  let _ ← movePoseFromConfig poseConfig out .storeRetreat "put_in_pocket" (some "retreat")
  modify fun s => { s with objectState := .stowed }
  modify fun s => { s with operatePose := none }

variable (poseConfig out) in
theorem run_afterDrop (dropEntry : PoseEntry F) (s : Arm F) :
    ((dropEntry.gripper = none ∧ (∃ e, out.direct 0 = .error e) ∨
        Unreadable poseConfig .storeRetreat) ∧
      ∃ e s', (afterDrop poseConfig out dropEntry).run.run s = (.error e, s') ∧
        s'.objectState = s.objectState) ∨
    (¬ (dropEntry.gripper = none ∧ (∃ e, out.direct 0 = .error e) ∨
        Unreadable poseConfig .storeRetreat) ∧
      ∃ s', (afterDrop poseConfig out dropEntry).run.run s = (.ok (), s') ∧
        s'.objectState = .stowed) := by
  obtain ⟨r, s₁, hrun₁, hstate₁, hraises⟩ :=
    run_commandGripperIfUnset_cases out 0 dropEntry 1000 s
  unfold afterDrop
  rw [run_bind, hrun₁]
  cases r with
  | error e => exact .inl ⟨.inl (hraises.1 ⟨e, rfl⟩), e, s₁, rfl, hstate₁⟩
  | ok u =>
      have hgripper : ¬ (dropEntry.gripper = none ∧ ∃ e, out.direct 0 = .error e) := by
        rw [← hraises]
        rintro ⟨e, he⟩
        cases he
      simp only [run_bind]
      rcases run_movePoseFromConfig_cases poseConfig out .storeRetreat rfl s₁
        with ⟨hretreat, e, hrun₂⟩ | ⟨hretreat, s₂, hrun₂, hstate₂⟩
      · rw [hrun₂]
        exact .inl ⟨.inr hretreat, e, s₁, rfl, hstate₁⟩
      · rw [hrun₂]
        exact .inr ⟨by rintro (h | h) <;> contradiction, _, rfl, rfl⟩

/-- How a call ends: with an exception, early, or with the object stowed. -/
theorem run_storeObjectInPocket (poseConfig : PoseConfig F) (out : Outcomes F) (s : Arm F) :
    (StowRaises poseConfig out ∧ ∃ e s',
      (storeObjectInPocket poseConfig out).run.run s = (.error e, s') ∧
        s'.objectState = .held) ∨
    (¬ StowRaises poseConfig out ∧ ∃ s',
      (storeObjectInPocket poseConfig out).run.run s = (.ok (), s') ∧
        (EndsEarly poseConfig out ∧ s'.objectState = .held ∨
          ¬ EndsEarly poseConfig out ∧ s'.objectState = .stowed)) := by
  unfold storeObjectInPocket StowRaises EndsEarly
  rw [run_modify_bind, run_bind]
  generalize hs₀ : ({ s with objectState := .held } : Arm F) = s₀
  have hstate₀ : s₀.objectState = .held := by rw [← hs₀]
  rcases run_movePoseFromConfig_cases poseConfig out .storeApproach rfl s₀
    with ⟨happroach, e, hrun₁⟩ | ⟨happroach, s₁, hrun₁, hstate₁⟩
  · rw [hrun₁]
    exact .inl ⟨.inl happroach, e, s₀, rfl, hstate₀⟩
  rw [hrun₁]
  rw [hstate₀] at hstate₁
  cases happroached : executed poseConfig out .storeApproach with
  | none => exact .inr ⟨by simp [happroach], s₁, rfl, .inl ⟨.inl rfl, hstate₁⟩⟩
  | some approachEntry =>
      simp only [run_bind]
      rcases run_movePoseFromConfig_cases poseConfig out .storeApproachAgain
        rfl s₁ with ⟨hagain, -⟩ | ⟨-, s₂, hrun₂, hstate₂⟩
      · exact (happroach hagain).elim
      rw [hrun₂]
      simp only
      rw [hstate₁] at hstate₂
      rcases run_movePoseFromConfig_cases poseConfig out .storeDrop rfl s₂
        with ⟨hdrop, e, hrun₃⟩ | ⟨hdrop, s₃, hrun₃, hstate₃⟩
      · rw [hrun₃]
        exact .inl ⟨.inr ⟨rfl, .inl hdrop⟩, e, s₂, rfl, hstate₂⟩
      rw [hrun₃]
      rw [hstate₂] at hstate₃
      cases hdropped : executed poseConfig out .storeDrop with
      | none =>
          refine .inr ⟨?_, s₃, rfl, .inl ⟨.inr rfl, hstate₃⟩⟩
          simp [happroach, hdrop]
      | some dropEntry =>
          rcases run_afterDrop poseConfig out dropEntry s₃ with
            ⟨hraises, e, s', hrun, hstate⟩ | ⟨hreturns, s', hrun, hstate⟩
          · exact .inl ⟨.inr ⟨rfl, .inr ⟨dropEntry, rfl, hraises⟩⟩, e, s', hrun,
              hstate.trans hstate₃⟩
          · refine .inr ⟨?_, s', hrun, .inr ⟨by simp, hstate⟩⟩
            rintro (h | ⟨-, h | ⟨entry, heq, h⟩⟩)
            · exact happroach h
            · exact hdrop h
            · cases heq
              exact hreturns h

/-- The law holds of a call exactly if the call raises, or the object was held before and
the call ends early or all three moves succeeded. -/
theorem stowLaw_iff (poseConfig : PoseConfig F) (out : Outcomes F)
    (reported : ConfigMove → Bool) (s : Arm F) :
    StowLaw poseConfig out reported s ↔
      StowRaises poseConfig out ∨
        s.objectState = .held ∧ (EndsEarly poseConfig out ∨ ∀ move ∈ stowMoves,
          (executed poseConfig out move).isSome ∧ reported move = true) := by
  rcases run_storeObjectInPocket poseConfig out s with
    ⟨hraises, e, s', hrun, hstate⟩ |
      ⟨hreturns, s', hrun, ⟨hearly, hstate⟩ | ⟨hcomplete, hstate⟩⟩
  · refine iff_of_true ⟨fun s'' hrun' => ?_, fun r s'' hrun' hstowed => ?_⟩ (.inl hraises)
    · rw [hrun] at hrun'
      cases hrun'
    · rw [hrun] at hrun'
      cases hrun'
      rw [hstate] at hstowed
      cases hstowed
  · rw [or_iff_right hreturns, and_iff_left (.inl hearly)]
    constructor
    · intro hlaw
      rw [← hlaw.aborted s' hrun hearly, hstate]
    · intro hheld
      refine ⟨fun s'' hrun' _ => ?_, fun r s'' hrun' hstowed => ?_⟩
      · rw [hrun] at hrun'
        cases hrun'
        rw [hstate, hheld]
      · rw [hrun] at hrun'
        cases hrun'
        rw [hstate] at hstowed
        cases hstowed
  · rw [or_iff_right hreturns, or_iff_right hcomplete]
    constructor
    · intro hlaw
      exact (hlaw.stowed _ s' hrun hstate).resolve_left fun h => hcomplete h.2
    · intro hall
      exact ⟨fun _ _ hearly => (hcomplete hearly).elim, fun _ _ _ _ => .inr hall⟩

end Law

end Model

/-- The arm refuses every motion to a stored pose. -/
def refusing : Outcomes Exact := { allSucceed with move := fun _ => .motionRaises }

/-- After a refused approach the empty gripper counts as holding an object. -/
theorem held_after_refused_approach : ¬ ∀ (poseConfig : PoseConfig Exact)
    (out : Outcomes Exact) (reported : ConfigMove → Bool) (s : Arm Exact),
      StowLaw poseConfig out reported s := by
  intro hall
  have hrun : (storeObjectInPocket defaultConfig refusing).run.run Arm.init =
      (.ok (), ((storeObjectInPocket defaultConfig refusing).run.run Arm.init).2) := by
    rcases run_storeObjectInPocket defaultConfig refusing Arm.init with
      ⟨-, e, s', hrun, -⟩ | ⟨-, s', hrun, -⟩
    · have hok : ((storeObjectInPocket defaultConfig refusing).run.run Arm.init).1.isOk = true := by
        decide +kernel
      rw [hrun] at hok
      cases hok
    · rw [hrun]
  have hunchanged := (hall defaultConfig refusing (fun _ => true) Arm.init).aborted _ hrun
    (.inl (by decide +kernel))
  exact absurd hunchanged (by decide +kernel)

end Ros2WsDemo.MobileManipulator

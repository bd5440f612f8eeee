import Ros2WsDemo.Planner.Truthful

/-!
# Poses the base is sent to

Whether every pose that is handed to the base is one that the plan gives: the pose of
the skill that the action names, or its own pose, normalised.  Neither needs to exist,
and the executor does not ask.
-/

namespace Ros2WsDemo.Planner

open Python ExceptState

section Model

variable {F : Type} [Arithmetic F] (console : Console) (msgs : Messages F)

/-! ## What should hold -/

/-- What was passed to `navigate_to_waypoint`. -/
def sentTo (performed : List (Performed F)) : List (Option (GeoPose F)) :=
  performed.filterMap fun
    | .navigate pose _ => some pose
    | _ => none

/-- The pose that a navigation action gives. -/
def Gives (entries : List (Str × Value F)) (pose : GeoPose F) : Prop :=
  ((item entries "target").truthy = true ∧
      (namedSkill (item entries "target")).bind Skill.pose = some pose) ∨
    normalizePoseInput msgs (item entries "pose") = .ok (some pose)

def GivenBy (action : Value F) (sent : Option (GeoPose F)) : Prop :=
  ∃ entries pose, action = .dict entries ∧ typeText entries = "navigate" ∧
    sent = some pose ∧ Gives msgs entries pose

/-- On every robot the poses that the base is sent to are given by actions of the plan,
one by each and in their order. -/
def RealPoses (limit : ℕ) (create : ℕ → Except Str Completion) : Prop :=
  ∀ (W : Type) (robot : Robot F W) (s : Session F W), s.performed = [] →
    ∃ actions, actions.Sublist ((planned console limit create).getD []) ∧
      List.Forall₂ (GivenBy msgs) actions (sentTo
        ((executeInstructionWithGpt console msgs robot limit create).run.run s).2.performed)

/-- Every navigation that the loop can get to gives a pose. -/
def PosesGiven : ℕ → List (Value F) → Prop
  | _, [] => True
  | idx, action :: rest => ∀ entries, action = .dict entries → ActionOk console msgs idx entries →
      (typeText entries = "navigate" → ∃ pose, Gives msgs entries pose) ∧
      (Asks entries → PosesGiven (idx + 1) rest)

/-! ## The pose of an action -/

section Action

variable {console msgs} {entries : List (Str × Value F)}

/-- The pose that is looked up is one that the action gives, if it gives any. -/
theorem navigatePose_ok {pose : Option (GeoPose F)}
    (h : navigatePose msgs (.dict entries) (item entries "target") = .ok pose) :
    (∃ real, pose = some real ∧ Gives msgs entries real) ∨
      (pose = none ∧ ∀ real, ¬ Gives msgs entries real) := by
  have hown : normalizePoseInput msgs (item entries "pose") = .ok pose →
      (¬ ∃ real, (item entries "target").truthy = true ∧
        (namedSkill (item entries "target")).bind Skill.pose = some real) →
      (∃ real, pose = some real ∧ Gives msgs entries real) ∨
        (pose = none ∧ ∀ real, ¬ Gives msgs entries real) := by
    intro hnormalized hskill
    cases pose with
    | some real => exact Or.inl ⟨real, rfl, Or.inr hnormalized⟩
    | none =>
        refine Or.inr ⟨rfl, fun real hgives => ?_⟩
        rcases hgives with hnamed | hreal
        · exact hskill ⟨real, hnamed⟩
        · cases hnormalized.symm.trans hreal
  unfold navigatePose skillPose at h
  rw [skillsMap_eq, get_dict] at h
  by_cases htruthy : (item entries "target").truthy = true
  · rw [if_pos htruthy] at h
    by_cases hhash : (item entries "target").hashable = true
    · rw [if_pos hhash] at h
      cases hpose : (namedSkill (item entries "target")).bind Skill.pose with
      | some real =>
          simp only [Except.map, hpose, bind, Except.bind, pure, Except.pure] at h
          exact Or.inl ⟨real, (Except.ok.inj h).symm, Or.inl ⟨htruthy, hpose⟩⟩
      | none =>
          simp only [Except.map, hpose, bind, Except.bind] at h
          refine hown h fun hnamed => ?_
          obtain ⟨real, -, hreal⟩ := hnamed
          cases hpose.symm.trans hreal
    · rw [if_neg hhash] at h
      cases h
  · rw [if_neg htruthy] at h
    refine hown h fun hnamed => ?_
    obtain ⟨real, htarget, -⟩ := hnamed
    exact htruthy htarget

theorem request_navigate {idx : ℕ} {operation : Operation F}
    (h : request console msgs idx (.dict entries) = .ok (some operation)) :
    (typeText entries = "navigate" ∧ ∃ pose, operation = .navigate pose ∧
        navigatePose msgs (.dict entries) (item entries "target") = .ok pose) ∨
      (typeText entries ≠ "navigate" ∧ ∀ pose, operation ≠ .navigate pose) := by
  unfold request at h
  obtain ⟨typ, htype, h⟩ := ok_bind h
  have htyp : typeText entries = typ := Except.ok.inj htype
  subst htyp
  obtain ⟨target, htarget, h⟩ := ok_bind h
  have htarget_eq : item entries "target" = target := Except.ok.inj htarget
  subst htarget_eq
  obtain ⟨_, -, h⟩ := ok_bind h
  split_ifs at h with hnavigate hmanipulate
  · obtain ⟨pose, hpose, h⟩ := ok_bind h
    exact Or.inl ⟨hnavigate, pose, (Option.some.inj (Except.ok.inj h)).symm, hpose⟩
  · obtain ⟨skill, -, h⟩ := ok_bind h
    obtain ⟨kind, -, h⟩ := ok_bind h
    obtain ⟨height, -, h⟩ := ok_bind h
    refine Or.inr ⟨hnavigate, fun pose => ?_⟩
    split_ifs at h
    · cases h
      simp
    · cases h
      simp
    · obtain ⟨_, -, h⟩ := ok_bind h
      cases h
  · obtain ⟨_, -, h⟩ := ok_bind h
    cases h

end Action

/-! ## The loop -/

section Loop

variable {console msgs} {W : Type} {robot : Robot F W}

omit [Arithmetic F] in
theorem sentTo_append (ps qs : List (Performed F)) : sentTo (ps ++ qs) = sentTo ps ++ sentTo qs :=
  List.filterMap_append

variable (robot) in
/-- One operation sends the base to its own pose, if it is a navigation. -/
theorem sentTo_perform (operation : Operation F) (s : Session F W) :
    ∃ ps, ((perform robot operation).run.run s).2.performed = s.performed ++ ps ∧
      ((∃ pose, operation = .navigate pose ∧ sentTo ps = [pose]) ∨
        (∀ pose, operation ≠ .navigate pose) ∧ sentTo ps = []) := by
  by_cases hstarts : Starts robot s operation
  · obtain ⟨p, hp, hperformed⟩ := performed_perform hstarts
    refine ⟨[p], hperformed, ?_⟩
    cases operation with
    | navigate pose =>
        cases p with
        | navigate pose' reported =>
            have hpose : pose' = pose := hp
            subst hpose
            exact Or.inl ⟨_, rfl, rfl⟩
        | _ => exact hp.elim
    | _ =>
        cases p with
        | navigate pose' reported => exact hp.elim
        | _ => exact Or.inr ⟨by simp, rfl⟩
  · refine ⟨[], by simpa using performed_perform_not hstarts, Or.inr ⟨?_, rfl⟩⟩
    rintro pose rfl
    exact hstarts trivial

/-- Where a navigation gives a pose, it is the one that the base is sent to. -/
theorem sentTo_requested {idx : ℕ} {entries : List (Str × Value F)} {operation : Operation F}
    {ps : List (Performed F)} (h : request console msgs idx (.dict entries) = .ok (some operation))
    (hgiven : typeText entries = "navigate" → ∃ pose, Gives msgs entries pose)
    (hsent : (∃ pose, operation = .navigate pose ∧ sentTo ps = [pose]) ∨
      (∀ pose, operation ≠ .navigate pose) ∧ sentTo ps = []) :
    ∃ navigations, navigations.Sublist [.dict entries] ∧
      List.Forall₂ (GivenBy msgs) navigations (sentTo ps) := by
  rcases request_navigate h with ⟨hnavigate, pose, rfl, hlookup⟩ | ⟨-, hother⟩
  · obtain ⟨_, ⟨⟩, hsent⟩ | ⟨hother, -⟩ := hsent
    · rw [hsent]
      obtain ⟨real, rfl, hgives⟩ | ⟨-, hnone⟩ := navigatePose_ok hlookup
      · exact ⟨_, .refl _, .cons ⟨entries, real, rfl, hnavigate, rfl, hgives⟩ .nil⟩
      · obtain ⟨real, hgives⟩ := hgiven hnavigate
        exact (hnone real hgives).elim
    · exact (hother pose rfl).elim
  · obtain ⟨pose, rfl, -⟩ | ⟨-, hsent⟩ := hsent
    · exact (hother pose rfl).elim
    · rw [hsent]
      exact ⟨[], List.nil_sublist _, .nil⟩

variable (robot) in
theorem sentTo_executeActions (actions : List (Value F)) :
    ∀ (idx : ℕ) (s : Session F W), PosesGiven console msgs idx actions →
      ∃ ps navigations,
        ((executeActions console msgs robot idx actions).run.run s).2.performed =
          s.performed ++ ps ∧
        navigations.Sublist actions ∧ List.Forall₂ (GivenBy msgs) navigations (sentTo ps) := by
  induction actions with
  | nil => exact fun idx s _ => ⟨[], [], (List.append_nil _).symm, .slnil, .nil⟩
  | cons action rest ih =>
      intro idx s hgiven
      rcases requested_or_rejected console msgs idx action with ⟨operation, h⟩ | h
      · obtain ⟨entries, rfl, haction⟩ := ActionOk.of_request h
        obtain ⟨hpose, hrest⟩ := hgiven entries rfl haction
        obtain ⟨r, hrequest, hasks⟩ := request_dict haction
        have hr : r = some operation := Except.ok.inj (hrequest.symm.trans h)
        subst hr
        obtain ⟨ps, hperformed, hsent⟩ := sentTo_perform robot operation s
        obtain ⟨navigations, hsublist, hmatch⟩ := sentTo_requested h hpose hsent
        rw [executeActions_requested h]
        rcases hperform : (perform robot operation).run.run s with ⟨e | _ | _, s'⟩ <;>
          rw [hperform] at hperformed
        · exact ⟨ps, navigations, hperformed, hsublist.trans (by simp), hmatch⟩
        · exact ⟨ps, navigations, hperformed, hsublist.trans (by simp), hmatch⟩
        · obtain ⟨ps', navigations', hperformed', hsublist', hmatch'⟩ :=
            ih (idx + 1) s' (hrest (hasks.mp rfl))
          refine ⟨ps ++ ps', navigations ++ navigations', ?_, hsublist.append hsublist', ?_⟩
          · rw [← List.append_assoc, ← hperformed]
            exact hperformed'
          · rw [sentTo_append]
            exact List.rel_append hmatch hmatch'
      · obtain ⟨r, -, hrun, -⟩ := executeActions_rejected robot rest h s
        rw [hrun]
        exact ⟨[], [], (List.append_nil _).symm, List.nil_sublist _, .nil⟩

theorem isSome_of_givenBy {actions : List (Value F)} {poses : List (Option (GeoPose F))}
    (h : List.Forall₂ (GivenBy msgs) actions poses) : ∀ sent ∈ poses, sent.isSome = true := by
  induction h with
  | nil => simp
  | cons hgiven _ ih =>
      obtain ⟨entries, pose, -, -, rfl, -⟩ := hgiven
      exact List.forall_mem_cons.mpr ⟨rfl, ih⟩

/-- Where everything goes through, the loop gets to every navigation that it can get to. -/
theorem PosesGiven.of_sentTo (actions : List (Value F)) : ∀ (idx : ℕ) (s : Session F Unit),
    (∀ sent ∈ sentTo
        ((executeActions console msgs obliging idx actions).run.run s).2.performed,
      sent.isSome = true) →
        PosesGiven console msgs idx actions := by
  induction actions with
  | nil => exact fun _ _ _ => trivial
  | cons action rest ih =>
      rintro idx s hsome entries rfl haction
      obtain ⟨r, hrequest, hasks⟩ := request_dict haction
      refine ⟨fun hnavigate => ?_, fun h => ?_⟩
      · obtain ⟨operation, rfl⟩ := Option.isSome_iff_exists.mp (hasks.mpr (Or.inl hnavigate))
        rcases request_navigate hrequest with ⟨-, pose, rfl, hlookup⟩ | ⟨hother, -⟩
        · obtain ⟨real, -, hgives⟩ | ⟨rfl, -⟩ := navigatePose_ok hlookup
          · exact ⟨real, hgives⟩
          · have hgrown := performed_prefix_executeActions console msgs obliging rest
              (idx + 1) { s with performed := s.performed ++ [.navigate none true] }
            rw [executeActions_requested hrequest] at hsome
            have hmem : (none : Option (GeoPose F)) ∈
                sentTo (s.performed ++ [.navigate none true]) := by
              simp [sentTo]
            cases hsome none ((hgrown.filterMap _).subset hmem)
        · exact (hother hnavigate).elim
      · obtain ⟨operation, rfl⟩ := Option.isSome_iff_exists.mp (hasks.mpr h)
        obtain ⟨s', hperform⟩ := run_perform_obliging operation s
        rw [executeActions_requested hrequest, hperform] at hsome
        exact ih (idx + 1) s' hsome

end Loop

/-- The base is only sent to poses that the plan gives, on every robot, exactly if every
navigation that the loop can get to names a skill with a pose or has a pose that can be
normalised. -/
theorem realPoses_iff (limit : ℕ) (create : ℕ → Except Str Completion) :
    RealPoses console msgs limit create ↔
      ∀ actions, planned console limit create = some actions →
        PosesGiven console msgs 1 actions := by
  constructor
  · intro h actions hplanned
    obtain ⟨navigations, -, hmatch⟩ := h Unit obliging ⟨(), none, none, .empty, []⟩ rfl
    have hrun := executeInstruction_planned console msgs obliging limit create
      ⟨(), none, none, .empty, []⟩
    rw [hplanned] at hrun
    rw [hrun] at hmatch
    exact PosesGiven.of_sentTo actions 1 _ (isSome_of_givenBy hmatch)
  · intro h W robot s hs
    have hrun := executeInstruction_planned console msgs robot limit create s
    cases hplanned : planned (F := F) console limit create with
    | some actions =>
        rw [hplanned] at hrun
        obtain ⟨ps, navigations, hperformed, hsublist, hmatch⟩ :=
          sentTo_executeActions robot actions 1 s (h actions hplanned)
        rw [hs, List.nil_append] at hperformed
        rw [hrun, hperformed]
        exact ⟨navigations, hsublist, hmatch⟩
    | none =>
        rw [hplanned] at hrun
        obtain ⟨r, -, hrun⟩ := hrun
        rw [hrun, hs]
        exact ⟨[], List.nil_sublist _, .nil⟩

end Model

/-! ## A navigation without a pose -/

def nowhere : ℕ → Except Str Completion := fun _ =>
  .ok (some [some "\x7b\"actions\": [\x7b\"type\": \"navigate\", \"target\": \"kitchen\"\x7d]\x7d"])

theorem sent_nowhere :
    sentTo ((executeInstructionWithGpt plainConsole plainMessages obliging 1000 nowhere).run.run
      atStart).2.performed = [none] := by
  decide +kernel

/-- The target is not a skill and there is no pose. -/
theorem sent_without_pose : ¬ ∀ create : ℕ → Except Str Completion,
    RealPoses plainConsole (plainMessages (F := Exact)) 1000 create := by
  intro h
  obtain ⟨navigations, -, hmatch⟩ := h nowhere Unit obliging atStart rfl
  rw [sent_nowhere] at hmatch
  obtain ⟨_, _, ⟨entries, pose, -, -, hsent, -⟩, -⟩ := List.forall₂_cons_right_iff.mp hmatch
  cases hsent

end Ros2WsDemo.Planner

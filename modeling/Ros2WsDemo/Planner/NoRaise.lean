import Ros2WsDemo.Lib.ExactFloat
import Ros2WsDemo.Lib.ExceptState
import Ros2WsDemo.Planner.Executor

/-!
# Answers that make the executor raise

When `execute_instruction_with_gpt` returns a truth value for every robot that only
succeeds or reports a failure.  The condition is on the answer alone: the content
of the message, what the decoder makes of it and the fields of the actions that
are reached.
-/

namespace Ros2WsDemo.Planner

open Python ExceptState
open MobileManipulator (obsJoint Pose6)

section Model

variable {F : Type} [Arithmetic F] (console : Console) (msgs : Messages F)

/-! ## Fields of an action -/

/-- `d.get(key)` -/
def item (entries : List (Str × Value F)) (key : String) : Value F :=
  (entries.lookup (Str.ofString key)).getD .none

def typeText (entries : List (Str × Value F)) : Str :=
  Builtins.lower F ((item entries "type").orElse (.str "")).toStr

/-- A target that is not empty can be looked up. -/
def TargetOk (target : Value F) : Prop := target.truthy = true → target.hashable = true

/-- The skill a value is the key of. -/
def namedSkill (key : Value F) : Option (Skill F) :=
  match key with
  | .str id => skills.find? fun s => s.id == id
  | _ => none

def targetSkill (entries : List (Str × Value F)) : Option (Skill F) :=
  namedSkill ((item entries "target").orElse (.str ""))

def operationText (entries : List (Str × Value F)) : Str :=
  let default : Str := (((targetSkill entries).bind Skill.operation).getD "pick")
  Builtins.lower F ((item entries "operation").orElse (.str default)).toStr

def KnownOperation (operation : Str) : Prop :=
  (operation = "pick" ∨ operation = "grasp") ∨ operation = "place" ∨ operation = "drop"

instance (operation : Str) : Decidable (KnownOperation operation) :=
  inferInstanceAs (Decidable (_ ∨ _))

/-- The action names a skill with a pose, or its own pose can be normalised. -/
def PoseOk (entries : List (Str × Value F)) : Prop :=
  ((item entries "target").truthy = true ∧
      ((namedSkill (item entries "target")).bind Skill.pose).isSome) ∨
    ∃ pose, normalizePoseInput msgs (item entries "pose") = .ok pose

def HeightOk (entries : List (Str × Value F)) : Prop :=
  item entries "height" = .none ∨ ∃ height, (item entries "height").toFloat = .ok height

/-- The fields of an action have the shape that the executor takes for granted. -/
def ActionOk (idx : ℕ) (entries : List (Str × Value F)) : Prop :=
  console.echoInfo ("GPT step " ++ Str.ofInt idx ++ ": " ++ (Value.dict entries).toStr) = .ok () ∧
    if typeText entries = "navigate" then
      TargetOk (item entries "target") ∧ PoseOk msgs entries
    else if typeText entries = "manipulate" then
      TargetOk (item entries "target") ∧ HeightOk entries ∧
        (¬ KnownOperation (operationText entries) →
          console.error ("Unknown manipulation op \"" ++ operationText entries ++ "\"") = .ok ())
    else console.error ("Unknown action type \"" ++ typeText entries ++ "\"") = .ok ()

/-- The action asks for an operation of the robot. -/
def Asks (entries : List (Str × Value F)) : Prop :=
  typeText entries = "navigate" ∨
    typeText entries = "manipulate" ∧ KnownOperation (operationText entries)

def ActionsOk : ℕ → List (Value F) → Prop
  | _, [] => True
  | idx, action :: rest => ∃ entries, action = .dict entries ∧
      ActionOk console msgs idx entries ∧ (Asks entries → ActionsOk (idx + 1) rest)

def PlanOk (plan : Value F) : Prop :=
  plan.truthy = true → console.print plan.toStr = .ok () ∧ ∃ entries, plan = .dict entries ∧
    ∀ actions, (item entries "actions").orElse (item entries "steps") = .list actions →
      ActionsOk console msgs 1 actions

/-- There is a content, it is decoded or rejected as not JSON, and the plan has the
shape that the executor takes for granted. -/
def AnswerOk (limit : ℕ) (create : ℕ → Except Str Completion) : Prop :=
  match requestText F console create with
  | .error e => console.error ("OpenAI call failed: " ++ console.text e) = .ok ()
  | .ok none => False
  | .ok (some text) =>
      match Json.loads (F := F) limit (jsonText text) with
      | .ok plan => PlanOk console msgs plan
      | .error e => e.isJsonDecodeError = true ∧
          console.error ("Planner output is not JSON: " ++ console.text e) = .ok () ∧
          console.error (jsonText text) = .ok ()

/-! ## What should hold -/

/-- The one motion outside of the pipelines does not raise. -/
def Robot.OnlyReports {W : Type} (robot : Robot F W) : Prop :=
  ∀ w, (robot.moveJ obsJoint w).1 = .ok ()

def NeverRaises (limit : ℕ) (create : ℕ → Except Str Completion) : Prop :=
  ∀ (W : Type) (robot : Robot F W) (s : Session F W), robot.OnlyReports →
    ∃ b s', (executeInstructionWithGpt console msgs robot limit create).run.run s = (.ok b, s')

/-! ## Decoding an action -/

section Request

variable {console msgs} {entries : List (Str × Value F)}

omit [Arithmetic F] in
theorem get_dict (entries : List (Str × Value F)) (key : String) :
    (Value.dict entries).get key = .ok (item entries key) := rfl

theorem skillsMap_eq (key : Value F) :
    skillsMap key = if key.hashable then .ok (namedSkill key) else .error .typeError := by
  cases key <;> rfl

theorem exists_skillsMap_iff {key : Value F} :
    (∃ skill, skillsMap key = .ok skill) ↔ key.hashable = true := by
  rw [skillsMap_eq]
  split_ifs with h <;> simp [h]

theorem hashable_orElse_iff (target : Value F) :
    (target.orElse (.str "")).hashable = true ↔ TargetOk target := by
  unfold Value.orElse TargetOk
  split_ifs with h
  · simp [h]
  · simp [h, Value.hashable]

theorem exists_navigatePose_iff :
    (∃ pose, navigatePose msgs (.dict entries) (item entries "target") = .ok pose) ↔
      TargetOk (item entries "target") ∧ PoseOk msgs entries := by
  unfold navigatePose skillPose TargetOk PoseOk
  rw [skillsMap_eq, get_dict]
  by_cases htruthy : (item entries "target").truthy = true
  · by_cases hhash : (item entries "target").hashable = true
    · cases hpose : (namedSkill (item entries "target")).bind Skill.pose with
      | some pose => simp [htruthy, hhash, Except.map, hpose, bind, Except.bind, pure, Except.pure]
      | none => simp [htruthy, hhash, Except.map, hpose, bind, Except.bind]
    · simp [htruthy, hhash, Except.map, bind, Except.bind]
  · simp [htruthy, bind, Except.bind]

theorem exists_heightOf_iff (skill : Option (Skill F)) :
    (∃ height, heightOf (.dict entries) skill = .ok height) ↔ HeightOk entries := by
  unfold heightOf HeightOk
  rw [get_dict]
  cases item entries "height" <;> simp [bind, Except.bind, pure, Except.pure]

theorem operationOf_eq :
    operationOf (.dict entries) (targetSkill entries) = .ok (operationText entries) := rfl

theorem actionType_eq : actionType (.dict entries) = .ok (typeText entries) := rfl

/-- The executor gets through an action that has the right shape, and asks for an
operation if it knows the type and the operation. -/
theorem request_dict {idx : ℕ} (h : ActionOk console msgs idx entries) :
    ∃ r, request console msgs idx (.dict entries) = .ok r ∧ (r.isSome ↔ Asks entries) := by
  obtain ⟨hecho, hrest⟩ := h
  unfold request Asks
  simp only [actionType_eq, get_dict, bind, Except.bind, hecho]
  split_ifs at hrest ⊢ with hnavigate hmanipulate
  · obtain ⟨pose, hpose⟩ := exists_navigatePose_iff.mpr hrest
    exact ⟨some (.navigate pose), by rw [hpose]; rfl, by simp [hnavigate]⟩
  · obtain ⟨htarget, hheight, hlog⟩ := hrest
    have hskill : skillsMap ((item entries "target").orElse (.str "")) =
        .ok (targetSkill entries) := by
      rw [skillsMap_eq, if_pos ((hashable_orElse_iff _).mpr htarget)]
      rfl
    obtain ⟨height, hheight⟩ := (exists_heightOf_iff (targetSkill entries)).mpr hheight
    simp only [hskill, operationOf_eq, hheight]
    split_ifs with hpick hplace
    · exact ⟨some .pick, rfl, by simp [hmanipulate, KnownOperation, hpick]⟩
    · exact ⟨some (.place height), rfl, by simp [hmanipulate, KnownOperation, hplace]⟩
    · have hunknown : ¬ KnownOperation (operationText entries) := by
        rintro (h | h)
        · exact hpick h
        · exact hplace h
      rw [hlog hunknown]
      exact ⟨none, rfl, by simp [hnavigate, hunknown]⟩
  · rw [hrest]
    exact ⟨none, rfl, by simp [hnavigate, hmanipulate]⟩

theorem ActionOk.of_request {idx : ℕ} {action : Value F} {r : Option (Operation F)}
    (h : request console msgs idx action = .ok r) :
    ∃ entries, action = .dict entries ∧ ActionOk console msgs idx entries := by
  obtain ⟨typ, htype, h⟩ := ok_bind h
  obtain ⟨target, htarget, h⟩ := ok_bind h
  cases action with
  | dict entries =>
      have htyp : typeText entries = typ := Except.ok.inj htype
      subst htyp
      have htarget_eq : item entries "target" = target := Except.ok.inj htarget
      subst htarget_eq
      obtain ⟨_, hecho, h⟩ := ok_bind h
      refine ⟨entries, rfl, hecho, ?_⟩
      split_ifs at h ⊢ with hnavigate hmanipulate
      · obtain ⟨pose, hpose, h⟩ := ok_bind h
        exact exists_navigatePose_iff.mp ⟨pose, hpose⟩
      · obtain ⟨skill, hskill, h⟩ := ok_bind h
        have hhash := exists_skillsMap_iff.mp ⟨skill, hskill⟩
        obtain rfl : targetSkill entries = skill := by
          rw [skillsMap_eq, if_pos hhash] at hskill
          exact Except.ok.inj hskill
        obtain ⟨operation, hoperation, h⟩ := ok_bind h
        have hop : operationText entries = operation := Except.ok.inj hoperation
        subst hop
        obtain ⟨height, hheight, h⟩ := ok_bind h
        refine ⟨(hashable_orElse_iff _).mp hhash, (exists_heightOf_iff _).mp ⟨height, hheight⟩,
          fun hunknown => ?_⟩
        rw [if_neg fun hpick => hunknown (Or.inl hpick),
          if_neg fun hplace => hunknown (Or.inr hplace)] at h
        obtain ⟨_, hlog, -⟩ := ok_bind h
        exact hlog
      · obtain ⟨_, hlog, -⟩ := ok_bind h
        exact hlog
  | _ => cases htarget

end Request

/-! ## The loop over the actions -/

section Loop

variable {console msgs} {W : Type} {robot : Robot F W}

/-- Operations of a robot that only reports do not raise. -/
theorem returns_perform (h : robot.OnlyReports) (operation : Operation F) (s : Session F W) :
    ∃ b s', (perform robot operation).run.run s = (.ok b, s') := by
  cases operation with
  | navigate pose => exact ⟨true, _, rfl⟩
  | pick =>
      obtain ⟨b, s', hpick, -⟩ := run_performPickSequence robot
        { s with world := (robot.moveJ obsJoint s.world).2 }
      refine ⟨b, s', ?_⟩
      unfold perform
      rw [run_bind, run_command, h s.world]
      exact hpick
  | place height =>
      cases hpose : s.operatePose with
      | none => exact ⟨true, s, run_performPlaceSequence_none robot height hpose⟩
      | some p =>
          obtain ⟨b, s', hplace, -⟩ := run_performPlaceSequence_some robot height hpose
          exact ⟨b, s', hplace⟩

/-- From actions of the right shape the loop returns. -/
theorem returns_executeActions (h : robot.OnlyReports) {actions : List (Value F)} :
    ∀ {idx : ℕ} (s : Session F W), ActionsOk console msgs idx actions →
      ∃ b s', (executeActions console msgs robot idx actions).run.run s = (.ok b, s') := by
  induction actions with
  | nil => exact fun s _ => ⟨true, s, rfl⟩
  | cons action rest ih =>
      rintro idx s ⟨entries, rfl, haction, hrest⟩
      obtain ⟨r, hrequest, hasks⟩ := request_dict haction
      unfold executeActions
      rw [hrequest, run_bind, run_ofExcept_ok]
      cases r with
      | none => exact ⟨false, s, rfl⟩
      | some operation =>
          obtain ⟨b, s', hperform⟩ := returns_perform h operation s
          simp only [run_bind, hperform]
          cases b with
          | false => exact ⟨false, s', rfl⟩
          | true => exact ih s' (hrest (hasks.mp rfl))

/-- A robot on which everything goes through, and which sees no object. -/
def obliging : Robot F Unit where
  navToPose _ _ := (true, ())
  moveJ _ _ := (.ok (), ())
  moveJPose _ _ := (.ok (), ())
  moveGripper _ _ := (.ok (), ())
  takePhoto _ := (.ok true, ())
  getRTMatrix _ := (.ok (), ())
  deliverImage _ _ := (.ok (), ())
  awaitPose _ := (.ok none, ())

theorem run_perform_obliging (operation : Operation F) (s : Session F Unit) :
    ∃ s', (perform obliging operation).run.run s = (.ok true, s') := by
  cases operation with
  | navigate pose => exact ⟨_, rfl⟩
  | pick =>
      obtain ⟨w, objPose, operatePose, objectState, performed⟩ := s
      cases objPose with
      | none => exact ⟨_, rfl⟩
      | some t => exact ⟨_, rfl⟩
  | place height =>
      obtain ⟨w, objPose, operatePose, objectState, performed⟩ := s
      cases operatePose with
      | none => exact ⟨_, rfl⟩
      | some p => exact ⟨_, rfl⟩

/-- Where everything goes through, the loop reaches whatever would make it raise. -/
theorem ActionsOk.of_returned {actions : List (Value F)} :
    ∀ {idx : ℕ} {s s' : Session F Unit} {b : Bool},
      (executeActions console msgs obliging idx actions).run.run s = (.ok b, s') →
        ActionsOk console msgs idx actions := by
  induction actions with
  | nil => exact fun _ => trivial
  | cons action rest ih =>
      intro idx s s' b h
      unfold executeActions at h
      obtain ⟨r, s₁, hrun, h⟩ := returned_bind h
      have hrequest := (returned_ofExcept hrun).1
      obtain ⟨entries, rfl, haction⟩ := ActionOk.of_request hrequest
      refine ⟨entries, rfl, haction, fun hasks => ?_⟩
      obtain ⟨r', hrequest', hiff⟩ := request_dict haction
      have hr : r' = r := Except.ok.inj (hrequest'.symm.trans hrequest)
      subst hr
      obtain ⟨operation, rfl⟩ := Option.isSome_iff_exists.mp (hiff.mpr hasks)
      obtain ⟨s₂, hperform⟩ := run_perform_obliging operation s₁
      simp only [run_bind, hperform] at h
      exact ih h

end Loop

/-! ## Plans and answers -/

section Answer

variable {console msgs} {W : Type} {robot : Robot F W}

theorem executePlan_dict {entries : List (Str × Value F)}
    (htruthy : (Value.dict entries).truthy = true)
    (hprint : console.print (Value.dict entries).toStr = .ok ()) (s : Session F W) :
    (executePlan console msgs robot (.dict entries)).run.run s =
      match (item entries "actions").orElse (item entries "steps") with
      | .list actions => (executeActions console msgs robot 1 actions).run.run s
      | _ => (.ok false, s) := by
  unfold executePlan
  rw [htruthy, hprint, get_dict, get_dict]
  simp only [run_bind, run_ofExcept_ok, Bool.not_true, Bool.false_eq_true, ↓reduceIte]
  cases (item entries "actions").orElse (item entries "steps") <;> rfl

theorem returns_executePlan (h : robot.OnlyReports) {plan : Value F} (s : Session F W)
    (hplan : PlanOk console msgs plan) :
    ∃ b s', (executePlan console msgs robot plan).run.run s = (.ok b, s') := by
  by_cases htruthy : plan.truthy = true
  · obtain ⟨hprint, entries, rfl, hactions⟩ := hplan htruthy
    rw [executePlan_dict htruthy hprint]
    cases hlist : (item entries "actions").orElse (item entries "steps") with
    | list actions => exact returns_executeActions h s (hactions actions hlist)
    | _ => exact ⟨false, s, rfl⟩
  · refine ⟨false, s, ?_⟩
    unfold executePlan
    rw [if_pos (by simp [htruthy])]
    rfl

theorem PlanOk.of_returned {plan : Value F} {s s' : Session F Unit} {b : Bool}
    (h : (executePlan console msgs obliging plan).run.run s = (.ok b, s')) :
    PlanOk console msgs plan := by
  intro htruthy
  have hrun := h
  unfold executePlan at h
  rw [htruthy] at h
  obtain ⟨_, s₁, hprint, h⟩ := returned_bind h
  obtain ⟨actions, s₂, hget, -⟩ := returned_bind h
  have hprint := (returned_ofExcept hprint).1
  cases plan with
  | dict entries =>
      refine ⟨hprint, entries, rfl, fun actions hlist => ?_⟩
      rw [executePlan_dict htruthy hprint, hlist] at hrun
      exact ActionsOk.of_returned hrun
  | _ => cases (returned_ofExcept hget).1

/-- A call that ends with `None` makes no plan that is gone through. -/
theorem exists_planOk_none :
    ∃ plan, (pure .none : Except Exn (Value F)) = .ok plan ∧ PlanOk console msgs plan :=
  ⟨.none, rfl, fun htruthy => by cases htruthy⟩

theorem exists_decodeAnswer_iff {limit : ℕ} {text : Str} :
    (∃ plan, decodeAnswer console limit text = .ok plan ∧ PlanOk console msgs plan) ↔
      match Json.loads (F := F) limit (jsonText text) with
      | .ok plan => PlanOk console msgs plan
      | .error e => e.isJsonDecodeError = true ∧
          console.error ("Planner output is not JSON: " ++ console.text e) = .ok () ∧
          console.error (jsonText text) = .ok () := by
  unfold decodeAnswer
  cases Json.loads (F := F) limit (jsonText text) with
  | ok plan => simp
  | error e =>
      cases hjson : e.isJsonDecodeError with
      | false => simp [hjson]
      | true =>
          simp only [hjson, if_true, exists_ok_then, true_and]
          exact and_congr_right fun _ => and_iff_left exists_planOk_none

theorem answerOk_iff {limit : ℕ} {create : ℕ → Except Str Completion} :
    AnswerOk console msgs limit create ↔
      ∃ plan, callOpenaiPlanner console limit create = .ok plan ∧ PlanOk console msgs plan := by
  unfold AnswerOk callOpenaiPlanner
  rcases requestText F console create with e | _ | text
  · simp only [exists_ok_then]
    exact (and_iff_left exists_planOk_none).symm
  · simp
  · exact exists_decodeAnswer_iff.symm

end Answer

/-! ## When nothing is raised -/

/-- The executor returns a truth value on every robot that only succeeds or reports a
failure exactly if the answer has the shape that it takes for granted. -/
theorem neverRaises_iff (limit : ℕ) (create : ℕ → Except Str Completion) :
    NeverRaises console msgs limit create ↔ AnswerOk console msgs limit create := by
  rw [answerOk_iff]
  constructor
  · intro h
    obtain ⟨b, s', hrun⟩ := h Unit obliging ⟨(), none, none, .empty, []⟩ fun _ => rfl
    obtain ⟨plan, s₁, hplan, hrun⟩ := returned_bind hrun
    exact ⟨plan, (returned_ofExcept hplan).1, PlanOk.of_returned hrun⟩
  · rintro ⟨plan, hplan, hok⟩ W robot s hrobot
    unfold executeInstructionWithGpt
    rw [hplan, run_bind, run_ofExcept_ok]
    exact returns_executePlan hrobot s hok

/-! ## An answer without content -/

/-- A console that can write everything. -/
def plainConsole : Console where
  text _ := []
  print _ := .ok ()
  echoInfo _ := .ok ()
  warn _ := .ok ()
  error _ := .ok ()

def plainMessages : Messages F where
  point x y z := .ok ⟨x, y, z⟩
  quaternion x y z w := .ok ⟨x, y, z, w⟩

end Model

/-- The first attempt succeeds, with a message that has no content. -/
theorem contentless_raises : ¬ ∀ create : ℕ → Except Str Completion,
    NeverRaises plainConsole (plainMessages (F := Exact)) 1000 create := by
  intro h
  obtain ⟨b, s', hrun⟩ := h (fun _ => .ok (some [none])) Unit obliging
    ⟨(), none, none, .empty, []⟩ fun _ => rfl
  obtain ⟨plan, s₁, hplan, -⟩ := returned_bind hrun
  cases (returned_ofExcept hplan).1

end Ros2WsDemo.Planner

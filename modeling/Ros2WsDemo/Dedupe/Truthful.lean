import Ros2WsDemo.Dedupe.Commands
import Ros2WsDemo.Lib.ExactFloat

/-!
# When a positive acknowledgement is true

`execute_command` returns `True` whenever nothing raises.  What the robot answers to a
list of actions is computed beside the code, by `attempt`; the operations of the code
follow such a list as long as nothing raises, and the acknowledgement is compared with
the answers.
-/

namespace Ros2WsDemo.DedupePlan

open Python ExceptState
open MobileManipulator (Pose6 Translation ObjectState Command ArmCalls observation obsJoint
  holdJoint transformedPose catchReadyPose dropPose postDropPose)
open Planner (isIn)

variable {F W : Type} (robot : Robot F W)

/-! ## The answers to a list of actions -/

/-- The reports of the actions one after the other, or the first exception. -/
def attempt : List (Action F) → W → Except Exn (List Bool) × W
  | [], w => (.ok [], w)
  | action :: actions, w =>
      match robot.perform action w with
      | (.error e, w) => (.error e, w)
      | (.ok b, w) =>
          match attempt actions w with
          | (.error e, w) => (.error e, w)
          | (.ok bs, w) => (.ok (b :: bs), w)

theorem attempt_append (as bs : List (Action F)) (w : W) : attempt robot (as ++ bs) w =
    match attempt robot as w with
    | (.error e, w) => (.error e, w)
    | (.ok rs, w) =>
        match attempt robot bs w with
        | (.error e, w) => (.error e, w)
        | (.ok rs', w) => (.ok (rs ++ rs'), w) := by
  induction as generalizing w with
  | nil =>
      simp only [List.nil_append, attempt]
      rcases attempt robot bs w with ⟨e | rs, w'⟩ <;> rfl
  | cons a as ih =>
      simp only [List.cons_append, attempt]
      rcases robot.perform a w with ⟨e | b, w₁⟩
      · rfl
      · simp only [ih]
        rcases attempt robot as w₁ with ⟨e | rs, w₂⟩
        · rfl
        · simp only
          rcases attempt robot bs w₂ with ⟨e | rs', w₃⟩ <;> rfl

theorem attempt_length {as : List (Action F)} {w w' : W} {bs : List Bool}
    (h : attempt robot as w = (.ok bs, w')) : bs.length = as.length := by
  induction as generalizing w bs with
  | nil =>
      cases h
      rfl
  | cons a as ih =>
      simp only [attempt] at h
      rcases hp : robot.perform a w with ⟨e | b, w₁⟩
      · simp only [hp] at h
        cases h
      · simp only [hp] at h
        rcases ha : attempt robot as w₁ with ⟨e | rs, w₂⟩
        · simp only [ha] at h
          cases h
        · simp only [ha] at h
          cases h
          rw [List.length_cons, List.length_cons, ih ha]

/-! ## Programs that follow a list of actions -/

theorem run_perform (action : Action F) (s : Manipulator F W) :
    (perform robot action).run.run s =
      ((robot.perform action s.world).1, { s with
        world := (robot.perform action s.world).2
        actions := s.actions ++ [(action, match (robot.perform action s.world).1 with
          | .ok b => b
          | .error _ => false)] }) := by
  unfold perform
  rw [run_bind, run_modifyGet]
  simp only
  rcases h : (robot.perform action s.world).1 with e | b <;> rfl

theorem run_command (action : Action F) (s : Manipulator F W) :
    (command robot action).run.run s =
      match robot.perform action s.world with
      | (.ok b, w) => (.ok (), { s with world := w, actions := s.actions ++ [(action, b)] })
      | (.error e, w) =>
          (.error e, { s with world := w, actions := s.actions ++ [(action, false)] }) := by
  unfold command
  rw [run_bind, run_perform]
  rcases robot.perform action s.world with ⟨e | b, w⟩ <;> rfl

/-- From `s` the program does these actions: it returns with their reports on the log, or
it raises where one of them does. -/
def FollowsFrom {α : Type} (m : CommandM F W α) (actions : List (Action F))
    (s : Manipulator F W) : Prop :=
  match attempt robot actions s.world with
  | (.ok bs, w) => ∃ a s', m.run.run s = (.ok a, s') ∧ s'.world = w ∧ s'.objPose = s.objPose ∧
      s'.actions = s.actions ++ actions.zip bs
  | (.error _, _) => ∃ e s', m.run.run s = (.error e, s')

theorem followsFrom_read_bind {α β : Type} {p : Manipulator F W → β} {f : β → CommandM F W α}
    {actions : List (Action F)} {s : Manipulator F W} :
    FollowsFrom robot ((do return p (← get) : CommandM F W β) >>= f) actions s ↔
      FollowsFrom robot (f (p s)) actions s := Iff.rfl

variable {robot} in
theorem FollowsFrom.returned {α : Type} {m : CommandM F W α} {actions : List (Action F)}
    {s s' : Manipulator F W} {a : α} (h : FollowsFrom robot m actions s)
    (hrun : m.run.run s = (.ok a, s')) :
    ∃ bs, attempt robot actions s.world = (.ok bs, s'.world) ∧ s'.objPose = s.objPose ∧
      s'.actions = s.actions ++ actions.zip bs := by
  unfold FollowsFrom at h
  rcases hattempt : attempt robot actions s.world with ⟨e | bs, w⟩
  · rw [hattempt] at h
    obtain ⟨e', s'', hrun'⟩ := h
    rw [hrun] at hrun'
    cases hrun'
  · rw [hattempt] at h
    obtain ⟨b, s'', hrun', rfl, hpose, hactions⟩ := h
    rw [hrun] at hrun'
    cases hrun'
    exact ⟨bs, rfl, hpose, hactions⟩

variable {robot} in
theorem FollowsFrom.bind {α β : Type} {m : CommandM F W α} {f : α → CommandM F W β}
    {as bs : List (Action F)} {s : Manipulator F W} (hm : FollowsFrom robot m as s)
    (hf : ∀ a s', m.run.run s = (.ok a, s') → s'.objPose = s.objPose →
      FollowsFrom robot (f a) bs s') : FollowsFrom robot (m >>= f) (as ++ bs) s := by
  unfold FollowsFrom at hm ⊢
  rw [attempt_append]
  rcases ha : attempt robot as s.world with ⟨e | rs, w⟩
  · rw [ha] at hm
    obtain ⟨e', s', hrun⟩ := hm
    exact ⟨e', s', by rw [run_bind, hrun]⟩
  · rw [ha] at hm
    obtain ⟨a, s', hrun, rfl, hpose, hactions⟩ := hm
    have hfs := hf a s' hrun hpose
    unfold FollowsFrom at hfs
    simp only
    rcases hb : attempt robot bs s'.world with ⟨e | rs', w'⟩
    · rw [hb] at hfs
      obtain ⟨e', s'', hrun'⟩ := hfs
      exact ⟨e', s'', by rw [run_bind, hrun]; exact hrun'⟩
    · rw [hb] at hfs
      obtain ⟨b, s'', hrun', rfl, hpose', hactions'⟩ := hfs
      refine ⟨b, s'', by rw [run_bind, hrun]; exact hrun', rfl, hpose'.trans hpose, ?_⟩
      rw [hactions', hactions, List.append_assoc, List.zip_append (attempt_length robot ha).symm]

variable {robot} in
theorem FollowsFrom.raised {α : Type} {m : CommandM F W α} {actions : List (Action F)}
    {s s' : Manipulator F W} {e : Exn} (h : FollowsFrom robot m actions s)
    (hrun : m.run.run s = (.error e, s')) :
    ∃ e' w, attempt robot actions s.world = (.error e', w) := by
  unfold FollowsFrom at h
  rcases hattempt : attempt robot actions s.world with ⟨e' | bs, w⟩
  · exact ⟨e', w, rfl⟩
  · rw [hattempt] at h
    obtain ⟨b, s'', hrun', -⟩ := h
    rw [hrun] at hrun'
    cases hrun'

variable {robot} in
theorem FollowsFrom.raises_iff {α : Type} {m : CommandM F W α} {actions : List (Action F)}
    {s : Manipulator F W} (h : FollowsFrom robot m actions s) :
    (∃ e s', m.run.run s = (.error e, s')) ↔
      ∃ e w, attempt robot actions s.world = (.error e, w) := by
  constructor
  · rintro ⟨e, s', hrun⟩
    exact h.raised hrun
  · rintro ⟨e, w, hattempt⟩
    unfold FollowsFrom at h
    rwa [hattempt] at h

/-- The same from every state with `pose` as the detected pose. -/
def Follows {α : Type} (pose : Option (ObjPose F)) (m : CommandM F W α)
    (actions : List (Action F)) : Prop :=
  ∀ s, s.objPose = pose → FollowsFrom robot m actions s

namespace Follows

variable {robot} {α β : Type} {pose : Option (ObjPose F)}

theorem command (action : Action F) : Follows robot pose (command robot action) [action] := by
  intro s _
  have hrun := run_command robot action s
  simp only [FollowsFrom, attempt]
  rcases hp : robot.perform action s.world with ⟨e | b, w⟩
  · rw [hp] at hrun
    exact ⟨e, _, hrun⟩
  · rw [hp] at hrun
    exact ⟨(), _, hrun, rfl, rfl, rfl⟩

theorem bind {m : CommandM F W α} {f : α → CommandM F W β} {as bs : List (Action F)}
    (hm : Follows robot pose m as) (hf : ∀ a, Follows robot pose (f a) bs) :
    Follows robot pose (m >>= f) (as ++ bs) :=
  fun s hs => (hm s hs).bind fun a s' _ hpose => hf a s' (hpose.trans hs)

theorem pure (a : α) : Follows robot pose (Pure.pure a : CommandM F W α) [] :=
  fun s _ => ⟨a, s, rfl, rfl, rfl, (List.append_nil _).symm⟩

/-- What only reads the members does nothing. -/
theorem read_bind {m : CommandM F W α} {a : α} {f : α → CommandM F W β} {as : List (Action F)}
    (hm : ∀ s, s.objPose = pose → m.run.run s = (.ok a, s)) (hf : Follows robot pose (f a) as) :
    Follows robot pose (m >>= f) as := by
  intro s hs
  have hrun : (m >>= f).run.run s = (f a).run.run s := by rw [run_bind, hm s hs]
  unfold FollowsFrom
  rw [hrun]
  exact hf s hs

/-- Members other than the detected pose may change on the way. -/
theorem modify {f : Manipulator F W → Manipulator F W} (hworld : ∀ s, (f s).world = s.world)
    (hpose : ∀ s, (f s).objPose = s.objPose) (hactions : ∀ s, (f s).actions = s.actions) :
    Follows robot pose (modify f) [] :=
  fun s _ => ⟨(), f s, rfl, hworld s, hpose s, (hactions s).trans (List.append_nil _).symm⟩

theorem modify_bind {f : Manipulator F W → Manipulator F W} {m : CommandM F W β}
    {as : List (Action F)} (hworld : ∀ s, (f s).world = s.world)
    (hpose : ∀ s, (f s).objPose = s.objPose) (hactions : ∀ s, (f s).actions = s.actions)
    (hm : Follows robot pose m as) :
    Follows robot pose (modifyThe (Manipulator F W) f >>= fun _ => m) as :=
  bind (modify hworld hpose hactions) fun _ => hm

end Follows

/-! ## The sequences of the operations -/

section Sequences

variable [Arithmetic F]

def observeActions : List (Action F) :=
  [.moveJ obsJoint, .takePhoto, .getRTMatrix, .publishImage]

def graspActions (t : Translation F) (xBias yBias zBias : F) : List (Action F) :=
  [.moveJ obsJoint, .moveGripper 1000, .moveJPose (catchReadyPose t xBias yBias zBias),
    .moveJPose (transformedPose t xBias yBias zBias), .moveGripper 100, .moveJ holdJoint]

def placeActions (p : Pose6 F) (height : F) : List (Action F) :=
  [.moveJPose (dropPose p height), .moveGripper 1000, .moveJPose (postDropPose p height),
    .moveJ obsJoint]

/-- What a text asks for, from beginning to end; `none` if it has no verb, or if the pose
that the operation needs is missing. -/
def sequence (text : Str) (objPose : Option (ObjPose F)) (operatePose : Option (Pose6 F)) :
    Option (List (Action F)) :=
  if isIn "observe" text then some observeActions
  else if isIn "go to" text then some [.navToObj (target text)]
  else if isIn "pick" text then
    objPose.map fun pose => graspActions pose.translation 26.08 (-18.985) 10.0
  else if isIn "place" text then operatePose.map fun p => placeActions p 0.75
  else none

/-- The sequence the text asks for was carried out between the two states, each action
without a reported failure. -/
def Done (text : Str) (s s' : Manipulator F W) : Prop :=
  ∃ actions, sequence text s'.objPose s.operatePose = some actions ∧
    s'.actions = s.actions ++ actions.map fun action => (action, true)

/-- A positive result of `execute_command` means that the sequence was done. -/
def AckTruthful (text : Str) (s : Manipulator F W) : Prop :=
  (executeCommand robot text s).1 = true → Done text s (executeCommand robot text s).2

/-- If none of the actions raises, none reports a failure. -/
def NoSilentFailure (actions : List (Action F)) (w : W) : Prop :=
  ∀ bs w', attempt robot actions w = (.ok bs, w') → ∀ b ∈ bs, b = true

/-- The robot raises at one of the actions. -/
def Raises (actions : List (Action F)) (w : W) : Prop :=
  ∃ e w', attempt robot actions w = (.error e, w')

/-- The answers of the robot to what the text asks for, as far as they decide whether a
positive result is true. -/
def AnswersTruthful (text : Str) (s : Manipulator F W) : Prop :=
  if isIn "observe" text then
    (∃ bs w', attempt robot observeActions s.world = (.ok bs, w') ∧ bs[1]? = some false) ∨
      NoSilentFailure robot observeActions s.world
  else if isIn "go to" text then NoSilentFailure robot [.navToObj (target text)] s.world
  else if isIn "pick" text then
    match robot.awaitPose s.world with
    | (.error _, _) => True
    | (.ok answer, w) =>
        match answer.or s.objPose with
        | none => Raises robot [.moveJ obsJoint, .moveGripper 1000] w
        | some pose => (∃ e, pose.eulerAngles = .error e) ∨
            NoSilentFailure robot (graspActions pose.translation 26.08 (-18.985) 10.0) w
  else if isIn "place" text then
    match s.operatePose with
    | none => False
    | some p => NoSilentFailure robot (placeActions p 0.75) s.world
  else False

/-! ## What the operations do -/

omit [Arithmetic F] in
theorem run_readObjPose_none {s : Manipulator F W} (hs : s.objPose = none) :
    (readObjPose : CommandM F W _).run.run s = (.ok none, s) := by
  unfold readObjPose
  rw [run_get_bind, hs]
  rfl

omit [Arithmetic F] in
theorem run_readObjPose {pose : ObjPose F} {s : Manipulator F W} (hs : s.objPose = some pose) :
    (readObjPose : CommandM F W _).run.run s =
      (pose.eulerAngles.map fun _ => some pose.translation, s) := by
  unfold readObjPose
  rw [run_get_bind, hs]
  dsimp only
  rw [run_bind]
  rcases pose.eulerAngles with e | u <;> rfl

theorem follows_graspObj_of_none (xBias yBias zBias : F) :
    Follows robot none (graspObj robot xBias yBias zBias)
      [.moveJ obsJoint, .moveGripper 1000] := by
  refine .bind (.command _) fun _ => .bind (.command _) fun _ => ?_
  exact .read_bind (fun s hs => run_readObjPose_none hs) (.pure ())

theorem follows_graspObj (pose : ObjPose F) (hangles : pose.eulerAngles = .ok ())
    (xBias yBias zBias : F) :
    Follows robot (some pose) (graspObj robot xBias yBias zBias)
      (graspActions pose.translation xBias yBias zBias) := by
  have hread : ∀ s : Manipulator F W, s.objPose = some pose →
      (readObjPose : CommandM F W _).run.run s = (.ok (some pose.translation), s) := by
    intro s hs
    rw [run_readObjPose hs, hangles]
    rfl
  refine .bind (.command _) fun _ => .bind (.command _) fun _ => .read_bind hread ?_
  refine .modify_bind (fun _ => rfl) (fun _ => rfl) (fun _ => rfl) ?_
  refine .bind (.command _) fun _ => .bind (.command _) fun _ => ?_
  refine .bind (.command _) fun _ => .bind (.command _) fun _ => ?_
  exact .modify (fun _ => rfl) (fun _ => rfl) fun _ => rfl

theorem followsFrom_place {p : Pose6 F} (height : F) {s : Manipulator F W}
    (hs : s.operatePose = some p) :
    FollowsFrom robot (placeAtFixedHeight robot height) (placeActions p height) s := by
  have hcalls : FollowsFrom robot ((armCalls robot).placeAtFixedHeight height)
      (placeActions p height) s := by
    simp only [ArmCalls.placeAtFixedHeight, armCalls]
    rw [followsFrom_read_bind, hs]
    refine Follows.bind (.command _) (fun _ => .bind (.command _) fun _ => ?_) s rfl
    refine .modify_bind (fun _ => rfl) (fun _ => rfl) (fun _ => rfl) ?_
    exact .bind (.command _) fun _ => .bind (.command _) fun _ => .pure none
  rw [← List.append_nil (placeActions p height)]
  exact hcalls.bind fun _ s' _ _ => Follows.pure () s' rfl

/-- Angles that cannot be computed stop the grasp. -/
theorem graspObj_raises {pose : ObjPose F} {e : Exn} (hangles : pose.eulerAngles = .error e)
    (xBias yBias zBias : F) {s : Manipulator F W} (hs : s.objPose = some pose) :
    ∃ e' s', (graspObj robot xBias yBias zBias).run.run s = (.error e', s') := by
  have hcommand : ∀ action : Action F, Triple (fun s => s.objPose = some pose)
      (command robot action) (fun _ s => s.objPose = some pose) fun _ => True := by
    intro action s hs
    refine ⟨fun a s' hrun => ?_, fun _ _ _ => trivial⟩
    have hfollows : FollowsFrom robot (command robot action) [action] s :=
      Follows.command action s rfl
    obtain ⟨-, -, hpose, -⟩ := hfollows.returned hrun
    exact hpose.trans hs
  have hraises : Triple (fun s => s.objPose = some pose) (graspObj robot xBias yBias zBias)
      (fun _ _ => False) fun _ => True := by
    refine (hcommand _).bind fun _ => (hcommand _).bind fun _ => Triple.bind (Q := fun _ _ => False)
      (fun s hs => ⟨fun a s' hrun => ?_, fun _ _ _ => trivial⟩) fun _ _ hfalse => hfalse.elim
    have hread := run_readObjPose hs
    rw [hangles] at hread
    cases hread.symm.trans hrun
  rcases hrun : (graspObj robot xBias yBias zBias).run.run s with ⟨e' | u, s'⟩
  · exact ⟨e', s', rfl⟩
  · exact ((hraises s hs).1 u s' hrun).elim

/-! ## The verdict -/

omit [Arithmetic F] in
theorem zip_eq_map_iff {actions : List (Action F)} {bs : List Bool}
    (hlength : bs.length = actions.length) :
    actions.zip bs = actions.map (fun action => (action, true)) ↔ ∀ b ∈ bs, b = true := by
  induction actions generalizing bs with
  | nil =>
      rw [List.length_nil, List.length_eq_zero_iff] at hlength
      subst hlength
      exact iff_of_true rfl nofun
  | cons action actions ih =>
      cases bs with
      | nil => cases hlength
      | cons b bs =>
          rw [List.length_cons, List.length_cons, Nat.add_right_cancel_iff] at hlength
          simp [ih hlength]

/-- An operation that follows its sequence, from where the code has come to, is acknowledged
truthfully exactly if the robot does not report a failure silently. -/
theorem truthful_of_followsFrom {text : Str} {s s₁ : Manipulator F W} {m : CommandM F W Unit}
    {actions : List (Action F)} (hrun₁ : (dispatch robot text).run.run s = m.run.run s₁)
    (hactions₁ : s₁.actions = s.actions) (hfollows : FollowsFrom robot m actions s₁)
    (hsequence : sequence text s₁.objPose s.operatePose = some actions) :
    AckTruthful robot text s ↔ NoSilentFailure robot actions s₁.world := by
  unfold AckTruthful NoSilentFailure executeCommand Done
  rw [hrun₁]
  rcases hrun : m.run.run s₁ with ⟨e | u, s'⟩
  · obtain ⟨e', w, hattempt⟩ := hfollows.raised hrun
    rw [hattempt]
    exact iff_of_true nofun nofun
  · obtain ⟨bs, hattempt, hpose, hactions⟩ := hfollows.returned hrun
    simp only [forall_const, hpose, hsequence, Option.some.injEq, exists_eq_left', hactions,
      hactions₁, List.append_cancel_left_eq, hattempt,
      zip_eq_map_iff (attempt_length robot hattempt)]
    constructor
    · rintro hall bs' w' heq
      cases heq
      exact hall
    · exact fun hall => hall bs s'.world rfl

/-- Without a verb, or without the pose the operation needs, a positive result is false. -/
theorem truthful_of_no_sequence {text : Str} {s : Manipulator F W}
    (hsequence : ∀ s', (dispatch robot text).run.run s = (.ok (), s') →
      sequence text s'.objPose s.operatePose = none) :
    AckTruthful robot text s ↔ ∃ e s', (dispatch robot text).run.run s = (.error e, s') := by
  unfold AckTruthful executeCommand Done
  rcases hrun : (dispatch robot text).run.run s with ⟨e | u, s'⟩
  · exact iff_of_true nofun ⟨e, s', rfl⟩
  · refine iff_of_false ?_ (by rintro ⟨e, s'', heq⟩; cases heq)
    intro htrue
    obtain ⟨actions, hsome, -⟩ := htrue rfl
    rw [hsequence s' hrun] at hsome
    cases hsome

/-- Where the photo is made, observing has followed its first two actions; otherwise one of
them raises or the photo is missing. -/
theorem getObservation_cases (s : Manipulator F W) :
    (FollowsFrom robot (getObservation robot) [.moveJ obsJoint, .takePhoto] s ∧
      ∃ b w, attempt robot [.moveJ obsJoint, .takePhoto] s.world = (.ok [b, true], w) ∧
        ∃ s', (getObservation robot).run.run s = (.ok true, s')) ∨
    ((∃ s', (getObservation robot).run.run s = (.ok false, s')) ∧
      (Raises robot [.moveJ obsJoint, .takePhoto] s.world ∨
        ∃ b w, attempt robot [.moveJ obsJoint, .takePhoto] s.world = (.ok [b, false], w))) := by
  have hrun : (getObservation robot).run.run s =
      match (command robot (.moveJ obsJoint)).run.run s with
      | (.error _, s₁) => (.ok false, s₁)
      | (.ok _, s₁) =>
          match (perform robot .takePhoto).run.run s₁ with
          | (.error _, s₂) => (.ok false, s₂)
          | (.ok image, s₂) => (.ok image, s₂) := by
    unfold getObservation observation
    rw [run_tryCatch, run_bind]
    rcases (command robot (.moveJ obsJoint)).run.run s with ⟨e | u, s₁⟩
    · rfl
    · simp only
      rcases (perform robot .takePhoto).run.run s₁ with ⟨e | image, s₂⟩ <;> rfl
  unfold FollowsFrom Raises
  simp only [attempt]
  rw [run_command] at hrun
  rcases hp : robot.perform (.moveJ obsJoint) s.world with ⟨e | b, w⟩
  · rw [hp] at hrun
    exact Or.inr ⟨⟨_, hrun⟩, Or.inl ⟨e, w, rfl⟩⟩
  · rw [hp] at hrun
    simp only [run_perform] at hrun
    rcases hq : robot.perform .takePhoto w with ⟨e | image, w'⟩
    · rw [hq] at hrun
      simp only [hq]
      exact Or.inr ⟨⟨_, hrun⟩, Or.inl ⟨e, w', rfl⟩⟩
    · rw [hq] at hrun
      simp only [hq]
      cases image with
      | false => exact Or.inr ⟨⟨_, hrun⟩, Or.inr ⟨b, w', rfl⟩⟩
      | true =>
          refine Or.inl ⟨⟨true, _, hrun, rfl, rfl, ?_⟩, b, w', rfl, _, hrun⟩
          simp [List.append_assoc]

/-- Observing raises when an action raises or the photo is missing, and otherwise follows
its sequence. -/
theorem observe_cases {text : Str} (htext : isIn "observe" text = true) (s : Manipulator F W) :
    ((∃ e s', (dispatch robot text).run.run s = (.error e, s')) ∧
      (Raises robot observeActions s.world ∨
        ∃ bs w, attempt robot observeActions s.world = (.ok bs, w) ∧ bs[1]? = some false)) ∨
    (FollowsFrom robot (dispatch robot text) observeActions s ∧
      ∀ bs w, attempt robot observeActions s.world = (.ok bs, w) → bs[1]? = some true) := by
  have hsplit : observeActions = [.moveJ obsJoint, .takePhoto] ++
      ([.getRTMatrix, .publishImage] : List (Action F)) := rfl
  unfold dispatch
  rw [if_pos htext, hsplit]
  rcases getObservation_cases robot s with
    ⟨hfollows, b, w, hattempt, s', hrun⟩ | ⟨⟨s', hrun⟩, hattempt⟩
  · right
    refine ⟨hfollows.bind fun image s₁ hrun' hpose => ?_, ?_⟩
    · rw [hrun] at hrun'
      cases hrun'
      exact Follows.bind (.command _) (fun _ => .command _) s' rfl
    · intro bs w' h
      rw [attempt_append, hattempt] at h
      simp only at h
      rcases hrest : attempt robot [.getRTMatrix, .publishImage] w with ⟨e | rs, w''⟩
      · rw [hrest] at h
        cases h
      · rw [hrest] at h
        cases h
        rfl
  · left
    constructor
    · rw [run_bind, hrun]
      simp only
      rw [run_bind, run_command]
      rcases robot.perform .getRTMatrix s'.world with ⟨e | b, w⟩
      · exact ⟨e, _, rfl⟩
      · exact ⟨.attributeError, _, rfl⟩
    · unfold Raises at hattempt ⊢
      rw [attempt_append]
      rcases hattempt with ⟨e, w, hattempt⟩ | ⟨b, w, hattempt⟩
      · rw [hattempt]
        exact Or.inl ⟨e, w, rfl⟩
      · rw [hattempt]
        simp only
        rcases attempt robot [.getRTMatrix, .publishImage] w with ⟨e | rs, w'⟩
        · exact Or.inl ⟨e, w', rfl⟩
        · exact Or.inr ⟨_, w', rfl, rfl⟩

omit [Arithmetic F] in
/-- The wait for a pose raises, or it leaves the latest pose there is. -/
theorem waitForPose_cases (s : Manipulator F W) :
    (∃ e w, robot.awaitPose s.world = (.error e, w) ∧
      (waitForPose robot).run.run s = (.error e, { s with world := w })) ∨
    ∃ answer w, robot.awaitPose s.world = (.ok answer, w) ∧ (waitForPose robot).run.run s =
      (.ok (), { s with world := w, objPose := answer.or s.objPose }) := by
  unfold waitForPose
  rw [run_bind, run_modifyGet]
  simp only
  rcases robot.awaitPose s.world with ⟨e | answer, w⟩
  · exact Or.inl ⟨e, w, rfl, rfl⟩
  · refine Or.inr ⟨answer, w, rfl, ?_⟩
    cases answer <;> rfl

theorem pick_truthful_iff {text : Str} (hobserve : ¬isIn "observe" text = true)
    (hgo : ¬isIn "go to" text = true) (hpick : isIn "pick" text = true)
    (s : Manipulator F W) :
    AckTruthful robot text s ↔ AnswersTruthful robot text s := by
  have hdispatch : dispatch robot text =
      (waitForPose robot >>= fun _ => graspObj robot 26.08 (-18.985) 10.0) := by
    unfold dispatch
    rw [if_neg hobserve, if_neg hgo, if_pos hpick]
  unfold AnswersTruthful
  rw [if_neg hobserve, if_neg hgo, if_pos hpick]
  rcases waitForPose_cases robot s with ⟨e, w, hanswer, hrun⟩ | ⟨answer, w, hanswer, hrun⟩
  · rw [hanswer]
    refine iff_of_true ?_ trivial
    unfold AckTruthful executeCommand
    rw [hdispatch, run_bind, hrun]
    exact nofun
  · rw [hanswer]
    simp only
    set s₁ : Manipulator F W := { s with world := w, objPose := answer.or s.objPose } with hs₁
    have hrun₁ : (dispatch robot text).run.run s =
        (graspObj robot 26.08 (-18.985) 10.0).run.run s₁ := by
      rw [hdispatch, run_bind, hrun]
    cases hpose : answer.or s.objPose with
    | none =>
        have hpose₁ : s₁.objPose = none := hpose
        have hfollows := follows_graspObj_of_none robot 26.08 (-18.985) 10.0 s₁ hpose₁
        rw [truthful_of_no_sequence, hrun₁]
        · exact hfollows.raises_iff
        · intro s' hrun'
          rw [hrun₁] at hrun'
          obtain ⟨-, -, hpose', -⟩ := hfollows.returned hrun'
          simp [sequence, hobserve, hgo, hpick, hpose', hpose₁]
    | some pose =>
        have hpose₁ : s₁.objPose = some pose := hpose
        cases hangles : pose.eulerAngles with
        | error e =>
            obtain ⟨e', s', hraise⟩ := graspObj_raises robot hangles 26.08 (-18.985) 10.0 hpose₁
            refine iff_of_true ?_ (Or.inl ⟨e, hangles⟩)
            unfold AckTruthful executeCommand
            rw [hrun₁, hraise]
            exact nofun
        | ok u =>
            have hfollows := follows_graspObj robot pose hangles 26.08 (-18.985) 10.0 s₁ hpose₁
            rw [truthful_of_followsFrom robot hrun₁ rfl hfollows
              (by simp [sequence, hobserve, hgo, hpick, hpose₁])]
            simp [hangles, hs₁]

theorem observe_truthful_iff {text : Str} (hobserve : isIn "observe" text = true)
    (s : Manipulator F W) :
    AckTruthful robot text s ↔ AnswersTruthful robot text s := by
  unfold AnswersTruthful
  rw [if_pos hobserve]
  rcases observe_cases robot hobserve s with ⟨⟨e, s', hraise⟩, hanswers⟩ | ⟨hfollows, hphoto⟩
  · refine iff_of_true ?_ ?_
    · unfold AckTruthful executeCommand
      rw [hraise]
      exact nofun
    · rcases hanswers with ⟨e', w, hattempt⟩ | hmissing
      · right
        intro bs w' h
        rw [hattempt] at h
        cases h
      · exact Or.inl hmissing
  · have hsequence : sequence text s.objPose s.operatePose = some observeActions := by
      simp [sequence, hobserve]
    rw [truthful_of_followsFrom robot rfl rfl hfollows hsequence]
    refine (or_iff_right ?_).symm
    rintro ⟨bs, w, hattempt, hmissing⟩
    have hmade := hphoto bs w hattempt
    rw [hmissing] at hmade
    cases hmade

/-- Which answers of the robot make the result of `execute_command` true. -/
theorem ackTruthful_iff (text : Str) (s : Manipulator F W) :
    AckTruthful robot text s ↔ AnswersTruthful robot text s := by
  by_cases hobserve : isIn "observe" text = true
  · exact observe_truthful_iff robot hobserve s
  by_cases hgo : isIn "go to" text = true
  · have hdispatch : dispatch robot text = command robot (.navToObj (target text)) := by
      simp [dispatch, hobserve, hgo]
    rw [truthful_of_followsFrom robot (congrArg (fun m => m.run.run s) hdispatch) rfl
      (Follows.command _ s rfl) (by simp [sequence, hobserve, hgo])]
    simp [AnswersTruthful, hobserve, hgo]
  by_cases hpick : isIn "pick" text = true
  · exact pick_truthful_iff robot hobserve hgo hpick s
  by_cases hplace : isIn "place" text = true
  · have hdispatch : dispatch robot text = placeAtFixedHeight robot 0.75 := by
      simp [dispatch, hobserve, hgo, hpick, hplace]
    cases hpose : s.operatePose with
    | none =>
        have hreturns : (dispatch robot text).run.run s = (.ok (), s) := by
          rw [hdispatch]
          simp only [placeAtFixedHeight, ArmCalls.placeAtFixedHeight, armCalls]
          rw [run_bind, run_read_bind, hpose]
          rfl
        rw [truthful_of_no_sequence robot fun s' _ => by
          simp [sequence, hobserve, hgo, hpick, hplace, hpose], hreturns]
        refine iff_of_false (by rintro ⟨e, s', heq⟩; cases heq) ?_
        simp [AnswersTruthful, hobserve, hgo, hpick, hplace, hpose]
    | some p =>
        rw [truthful_of_followsFrom robot (congrArg (fun m => m.run.run s) hdispatch) rfl
          (followsFrom_place robot 0.75 hpose)
          (by simp [sequence, hobserve, hgo, hpick, hplace, hpose])]
        simp [AnswersTruthful, hobserve, hgo, hpick, hplace, hpose]
  · have hreturns : (dispatch robot text).run.run s = (.ok (), s) := by
      simp only [dispatch, if_neg hobserve, if_neg hgo, if_neg hpick, if_neg hplace]
      rfl
    rw [truthful_of_no_sequence robot fun s' _ => by
      simp [sequence, hobserve, hgo, hpick, hplace], hreturns]
    refine iff_of_false (by rintro ⟨e, s', heq⟩; cases heq) ?_
    simp [AnswersTruthful, hobserve, hgo, hpick, hplace]

end Sequences

/-- A robot that answers everything with success, and never detects anything. -/
def willingRobot : Robot Exact Unit where
  perform _ w := (.ok true, w)
  awaitPose w := (.ok none, w)

/-- Placing without an operate pose, as after the start. -/
theorem place_acknowledged_without_pose :
    ¬ ∀ (robot : Robot Exact Unit) (text : Str) (s : Manipulator Exact Unit),
      AckTruthful robot text s := by
  intro hall
  have hplace : isIn "observe" (Str.ofString "place") = false ∧
      isIn "go to" (Str.ofString "place") = false ∧
      isIn "pick" (Str.ofString "place") = false ∧
      isIn "place" (Str.ofString "place") = true := by decide +kernel
  obtain ⟨hobserve, hgo, hpick, hplace⟩ := hplace
  have hdispatch : (dispatch willingRobot "place").run.run ⟨(), none, none, .empty, []⟩ =
      (.ok (), ⟨(), none, none, .empty, []⟩) := by
    simp only [dispatch, hobserve, hgo, hpick, hplace, Bool.false_eq_true, if_false, if_true]
    rfl
  obtain ⟨actions, hsequence, -⟩ := hall willingRobot "place" ⟨(), none, none, .empty, []⟩ (by
    rw [executeCommand, hdispatch])
  simp [sequence, hobserve, hgo, hpick, hplace] at hsequence

end Ros2WsDemo.DedupePlan

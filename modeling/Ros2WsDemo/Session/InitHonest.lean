import Ros2WsDemo.Lib.Trace
import Ros2WsDemo.Session.WorkLoop

/-!
# Honest initialization

The base class declares a worker initialized before the derived class has done
anything.  Most derived classes take this back first.  The two that do not are
honest as long as the platform answers what they ask, or says that it does not
support it.
-/

namespace Ros2WsDemo.WorkLoop

open Effect Trace WorkThread

/-! ## Events -/

inductive EventKind where
  | sessionStart
  | reset (i : ℕ)
  | enter (i : ℕ)
  | leave (i : ℕ) (result : Option Bool)
  | other
  deriving DecidableEq

def Op.kind : Op → EventKind
  | .safeGetSlamwarePlatform => .sessionStart
  | .resetOnWorkLoopBegin i => .reset i
  | .enterReinitWorkLoop i => .enter i
  | .leaveReinitWorkLoop i result => .leave i result
  | _ => .other

def kind : ServerEvent → EventKind
  | .op o _ => o.kind
  | .act a => a.elim
  | .start j => j.elim

/-- The worker's own `reinitWorkLoop` is running. -/
def WithinReinit (i : ℕ) (tr : List ServerEvent) : Prop :=
  Last (fun e => kind e = .enter i ∨ ∃ result, kind e = .leave i result)
    (fun e => kind e = .enter i) tr

/-- The worker's own `reinitWorkLoop` has returned true since an event of a kind. -/
def InitCompletedSince (since : EventKind → Prop) (i : ℕ) (tr : List ServerEvent) : Prop :=
  Last (fun e => since (kind e) ∨ kind e = .leave i (some true))
    (fun e => kind e = .leave i (some true)) tr

def SinceReset (i : ℕ) (k : EventKind) : Prop := k = .reset i

def SinceSessionStart (i : ℕ) (k : EventKind) : Prop := k = .reset i ∨ k = .sessionStart

/-- A worker that counts as initialized is so by its own account. -/
def InitHonest (n : ℕ) (s : State) (tr : List ServerEvent) : Prop :=
  ∀ i < n, s.isWorkLoopInitOk i = true → ¬WithinReinit i tr → InitCompletedSince (SinceReset i) i tr

/-- Every worker has been initialized by its own account in this session. -/
def AllInitialized (n : ℕ) (tr : List ServerEvent) : Prop :=
  ∀ i < n, InitCompletedSince (SinceSessionStart i) i tr

/-! ## The defect -/

/-- The calls made by `reinitWorkLoop` while the worker already counts as initialized. -/
def PlatformCall.early : PlatformCall → Bool
  | .getOdoPose | .getSpeed | .getImuRawData => true
  | _ => false

/-- No exception leaves `reinitWorkLoop` from an early call. -/
def EarlyCallAnswered : (o : Op) → Ret o → Prop
  | .callPlatform _ call, (r : Except Exn Unit) =>
      call.early = true → ∀ e, r = .error e → e = .unsupportedCommand
  | _, _ => True

/-! ## Assertions -/

section Assertions

variable {since : ℕ → EventKind → Prop}

/-- What a notion of a new beginning has to be: it includes the reset of the
worker, and no call of `reinitWorkLoop` is one. -/
structure Beginning (since : ℕ → EventKind → Prop) : Prop where
  reset : ∀ i, since i (.reset i)
  not_enter : ∀ i j, ¬since i (.enter j)
  not_leave : ∀ i j result, ¬since i (.leave j result)
  not_other : ∀ i, ¬since i .other

theorem beginning_sinceReset : Beginning SinceReset where
  reset _ := rfl
  not_enter _ _ := nofun
  not_leave _ _ _ := nofun
  not_other _ := nofun

theorem beginning_sinceSessionStart : Beginning SinceSessionStart where
  reset _ := Or.inl rfl
  not_enter _ _ := nofun
  not_leave _ _ _ := nofun
  not_other _ := nofun

theorem InitCompletedSince.sinceReset (hsince : Beginning since) {i : ℕ} {tr : List ServerEvent}
    (h : InitCompletedSince (since i) i tr) : InitCompletedSince (SinceReset i) i tr := by
  refine Last.of_imp h ?_ fun e he => Or.inr he
  rintro e (he | he)
  · exact Or.inl (he ▸ hsince.reset i)
  · exact Or.inr he

/-- Outside of every `reinitWorkLoop`. -/
def Settled (since : ℕ → EventKind → Prop) (n : ℕ) (s : State) (tr : List ServerEvent) : Prop :=
  ∀ i < n, s.isWorkLoopInitOk i = true → InitCompletedSince (since i) i tr

/-- Inside the `reinitWorkLoop` of worker `i`, called when the flags were `flags`. -/
structure Within (since : ℕ → EventKind → Prop) (n i : ℕ) (flags : ℕ → Bool) (s : State)
    (tr : List ServerEvent) : Prop where
  within : WithinReinit i tr
  frame : ∀ j, j ≠ i → s.isWorkLoopInitOk j = flags j
  others : ∀ j < n, j ≠ i → flags j = true → InitCompletedSince (since j) j tr

theorem Settled.honest (hsince : Beginning since) {n : ℕ} {s : State} {tr : List ServerEvent}
    (h : Settled since n s tr) : InitHonest n s tr :=
  fun i hi hflag _ => (h i hi hflag).sinceReset hsince

theorem Within.honest (hsince : Beginning since) {n i : ℕ} {flags : ℕ → Bool} {s : State}
    {tr : List ServerEvent} (h : Within since n i flags s tr) : InitHonest n s tr := by
  intro j hj hflag hout
  have hne : j ≠ i := by
    rintro rfl
    exact hout h.within
  exact (h.others j hj hne (h.frame j hne ▸ hflag)).sinceReset hsince

/-! ## Operations -/

/-- Operations inside `reinitWorkLoop` that leave the flags of all workers alone. -/
def Op.Inner : Op → Prop
  | .readIsWorkLoopInitOk _ | .readFeatureSupported _ _ | .writeFeatureSupported _ _ _
  | .requestReinitMap _ | .callPlatform _ _ | .createSystemEventProvider _ | .createPublisher _
  | .publish _ | .getPubAccumulateOdometry => True
  | _ => False

/-- Operations outside of it that leave the flags alone. -/
def Op.Outer : Op → Prop
  | .safeIsSlamwarePlatformConnected | .loopTryConnectToSlamwarePlatform
  | .safeReleaseSlamwarePlatform | .shouldContinueRunning | .rclcppOk | .roughSleepWait
  | .readIsWorkLoopInitOk _ | .writeFeatureSupported _ _ _ | .createPublisher _ => True
  | _ => False

theorem Op.Inner.kind_eq {o : Op} (ho : o.Inner) : o.kind = .other := by
  cases o <;> first | rfl | exact ho.elim

theorem Op.Outer.kind_eq {o : Op} (ho : o.Outer) : o.kind = .other := by
  cases o <;> first | rfl | exact ho.elim

/-- Only four operations change the flags or open a call. -/
theorem flags_eq {s s' : State} {o : Op} {r : Ret o} (ho : o.Inner ∨ o.Outer)
    (h : handle s o r s') : s'.isWorkLoopInitOk = s.isWorkLoopInitOk := by
  cases o with
  | safeIsSlamwarePlatformConnected => rw [h.2]
  | loopTryConnectToSlamwarePlatform =>
      obtain ⟨b, rfl⟩ := h
      rfl
  | readIsWorkLoopInitOk i => rw [h.2]
  | readFeatureSupported i feature => rw [h.2]
  | safeGetSlamwarePlatform => rw [h.2]
  | resetOnWorkLoopBegin i => rcases ho with ho | ho <;> exact ho.elim
  | writeIsWorkLoopInitOk i b => rcases ho with ho | ho <;> exact ho.elim
  | _ =>
      cases h
      rfl

end Assertions

/-! ## The workers -/

/-- The platform answers the early calls. -/
abbrev answered : System Ret Empty State := system.restrict EarlyCallAnswered

/-- What holds before every operation. -/
def InitGuard (n : ℕ) (s : State) (tr : List ServerEvent) (o : Op) : Prop :=
  InitHonest n s tr ∧
    ((∃ i, o = .checkToPerform i) ∨ o = .logReinitWorkLoop true → AllInitialized n tr)

theorem InitHonest.guard {n : ℕ} {s : State} {tr : List ServerEvent} {o : Op}
    (h : InitHonest n s tr) (hperform : ∀ i, o ≠ .checkToPerform i)
    (hlog : o ≠ .logReinitWorkLoop true) : InitGuard n s tr o := by
  refine ⟨h, ?_⟩
  rintro (⟨i, ho⟩ | ho)
  · exact absurd ho (hperform i)
  · exact absurd ho hlog

theorem stable_answered (P : State → List ServerEvent → Prop) : Stable answered P :=
  fun _ _ a => a.elim

section Workers

variable {since : ℕ → EventKind → Prop} {n i : ℕ} {flags : ℕ → Bool} {s s' : State}
  {tr : List ServerEvent} {b : Bool}

theorem InitCompletedSince.snoc {j : ℕ} (h : InitCompletedSince (since j) j tr) {e : ServerEvent}
    (he : ¬since j (kind e)) (hne : kind e ≠ .leave j (some true)) :
    InitCompletedSince (since j) j (tr ++ [e]) :=
  Last.snoc h (not_or.mpr ⟨he, hne⟩)

theorem Within.snoc (hsince : Beginning since) (h : Within since n i flags s tr) {o : Op}
    {r : Ret o} (ho : o.kind = .other)
    (hs : ∀ j, j ≠ i → s'.isWorkLoopInitOk j = s.isWorkLoopInitOk j) :
    Within since n i flags s' (tr ++ [.op o r]) where
  within := Last.snoc h.within (by
    rintro (he | ⟨result, he⟩) <;> cases ho.symm.trans he)
  frame j hj := (hs j hj).trans (h.frame j hj)
  others j hj hne hflag := (h.others j hj hne hflag).snoc
    (fun he => hsince.not_other j (ho ▸ he)) (fun he => by cases ho.symm.trans he)

/-- Inside the `reinitWorkLoop` of worker `i`, whose flag is `b`. -/
def At (since : ℕ → EventKind → Prop) (n i : ℕ) (flags : ℕ → Bool) (b : Bool) (s : State)
    (tr : List ServerEvent) : Prop :=
  Within since n i flags s tr ∧ s.isWorkLoopInitOk i = b

theorem Op.Inner.guard (hsince : Beginning since) {o : Op} (ho : o.Inner)
    (h : Within since n i flags s tr) : InitGuard n s tr o := by
  apply (h.honest hsince).guard
  · rintro j rfl
    exact ho.elim
  · rintro rfl
    exact ho.elim

theorem wp_inner (hsince : Beginning since) {α : Type} {p : ServerM α} (hp : p.Uses Op.Inner)
    (h : At since n i flags b s tr) :
    wp answered (InitGuard n) (fun _ => At since n i flags b) (fun _ => At since n i flags b)
      p s tr := by
  refine wp_of_uses hp (stable_answered _) h (fun s tr o ho h => ho.guard hsince h.1) ?_
  rintro s tr o r s' ho h ⟨hr, -⟩
  have hflags := flags_eq (Or.inl ho) hr
  exact ⟨h.1.snoc hsince ho.kind_eq fun j _ => congrFun hflags j, (congrFun hflags i).trans h.2⟩

theorem wp_write (hsince : Beginning since) {E : Exn → State → List ServerEvent → Prop} (b : Bool)
    (h : Within since n i flags s tr) :
    wp answered (InitGuard n) (fun _ => At since n i flags b) E (writeIsWorkLoopInitOk i b)
      s tr := by
  apply wp_perform (o := Op.writeIsWorkLoopInitOk i b) (stable_answered _) h
  · intro s tr h
    exact (h.honest hsince).guard nofun nofun
  · rintro s tr r s' h ⟨rfl, -⟩
    refine ⟨h.snoc hsince rfl fun j hj => ?_, ?_⟩
    · simp [State.setInitOk, hj]
    · simp [State.setInitOk]

theorem wp_read (hsince : Beginning since) (h : At since n i flags b s tr) :
    wp answered (InitGuard n) (At since n i flags) (fun _ => At since n i flags false)
      (readIsWorkLoopInitOk i) s tr := by
  apply wp_perform (o := Op.readIsWorkLoopInitOk i) (stable_answered _) h
  · exact fun s tr h => Op.Inner.guard hsince (o := Op.readIsWorkLoopInitOk i) trivial h.1
  · rintro s tr r s' h ⟨⟨hr, rfl⟩, -⟩
    exact ⟨h.1.snoc hsince rfl fun _ _ => rfl, hr.symm⟩

/-- The end of every `reinitWorkLoop`. -/
theorem wp_finish (hsince : Beginning since) (h : Within since n i flags s tr) :
    wp answered (InitGuard n) (At since n i flags) (fun _ => At since n i flags false)
      (do
        writeIsWorkLoopInitOk i true
        readIsWorkLoopInitOk i : ServerM Bool) s tr := by
  apply wp_seq (wp_write hsince true h)
  exact fun _ s tr h => wp_read hsince h

/-- The beginning of every derived `reinitWorkLoop`. -/
theorem wp_base (hsince : Beginning since) (h : Within since n i flags s tr) {rest : ServerM Bool}
    (hrest : ∀ s tr, At since n i flags true s tr → wp answered (InitGuard n)
      (At since n i flags) (fun _ => At since n i flags false) rest s tr) :
    wp answered (InitGuard n) (At since n i flags) (fun _ => At since n i flags false)
      (do
        if !(← ServerWorkerBase.reinitWorkLoop i) then
          return false
        rest) s tr := by
  apply wp_seq (wp_finish hsince h)
  intro ok s tr h
  cases ok with
  | false => exact h
  | true => exact hrest s tr h

/-- Taking back what the base class has declared. -/
theorem wp_clear (hsince : Beginning since) (h : At since n i flags true s tr)
    {rest : ServerM Bool} (hrest : ∀ s tr, At since n i flags false s tr → wp answered (InitGuard n)
      (At since n i flags) (fun _ => At since n i flags false) rest s tr) :
    wp answered (InitGuard n) (At since n i flags) (fun _ => At since n i flags false)
      (do
        writeIsWorkLoopInitOk i false
        rest) s tr := by
  apply wp_seq (wp_write hsince false h.1)
  exact fun _ s tr h => hrest s tr h

theorem uses_callPlatform (call : PlatformCall) : (callPlatform i call).Uses Op.Inner :=
  (Prog.uses_perform trivial).bind Prog.uses_ofExcept

theorem uses_createPublisher : (createPublisher i).Uses Op.Inner :=
  (Prog.uses_perform trivial).bind Prog.uses_ofExcept

theorem uses_publish : (publish i).Uses Op.Inner :=
  (Prog.uses_perform trivial).bind Prog.uses_ofExcept

theorem uses_createSystemEventProvider : (createSystemEventProvider i).Uses Op.Inner :=
  (Prog.uses_perform trivial).bind Prog.uses_ofExcept

theorem uses_probeFeature (call : PlatformCall) (feature : Feature) :
    (probeFeature i call feature).Uses Op.Inner := by
  apply Prog.Uses.tryCatch
  · exact (uses_callPlatform call).bind fun _ => Prog.uses_perform trivial
  · intro e
    cases e <;> first | exact Prog.uses_perform trivial | exact Prog.uses_throw _

/-- An answered early call does not leave `reinitWorkLoop`. -/
theorem wp_probeFeature_early (hsince : Beginning since) {call : PlatformCall}
    (hcall : call.early = true) (feature : Feature) (h : At since n i flags true s tr) :
    wp answered (InitGuard n) (fun _ => At since n i flags true)
      (fun _ => At since n i flags false) (probeFeature i call feature) s tr := by
  have hwrite : ∀ b s tr, At since n i flags true s tr → wp answered (InitGuard n)
      (fun _ => At since n i flags true) (fun _ => At since n i flags false)
      (writeFeatureSupported i feature b) s tr := by
    intro b s tr h
    apply wp_perform (o := Op.writeFeatureSupported i feature b) (stable_answered _) h
    · intro s tr h
      exact Op.Inner.guard hsince (o := Op.writeFeatureSupported i feature b) trivial h.1
    · rintro s tr r s' h ⟨rfl, -⟩
      exact ⟨h.1.snoc hsince rfl fun _ _ => rfl, h.2⟩
  apply wp_tryCatch.mpr
  apply wp_seq (R := fun _ => At since n i flags true)
  · apply wp_seq (R := fun (r : Except Exn Unit) s tr => At since n i flags true s tr ∧
      ∀ e, r = .error e → e = .unsupportedCommand)
    · apply wp_perform (o := Op.callPlatform i call) (stable_answered _) h
      · exact fun s tr h => Op.Inner.guard hsince (o := Op.callPlatform i call) trivial h.1
      · rintro s tr r s' h ⟨rfl, hr⟩
        exact ⟨⟨h.1.snoc hsince rfl fun _ _ => rfl, h.2⟩, hr hcall⟩
    · rintro r s tr ⟨h, hr⟩
      cases r with
      | ok _ => exact h
      | error e =>
          have heq := hr e rfl
          subst heq
          exact hwrite false s tr h
  · exact fun _ s tr h => hwrite true s tr h

theorem wp_robotDeviceInfo (hsince : Beginning since) (h : Within since n i flags s tr) :
    wp answered (InitGuard n) (At since n i flags) (fun _ => At since n i flags false)
      (ServerRobotDeviceInfoWorker.reinitWorkLoop i) s tr := by
  refine wp_base hsince h fun s tr h => wp_clear hsince h fun s tr h => ?_
  apply wp_seq (wp_inner hsince (uses_callPlatform _) h)
  intro _ s tr h
  apply wp_seq (wp_inner hsince (uses_callPlatform _) h)
  intro _ s tr h
  apply wp_seq (wp_inner hsince (uses_callPlatform _) h)
  intro _ s tr h
  apply wp_seq (wp_inner hsince uses_publish h)
  exact fun _ s tr h => wp_finish hsince h.1

theorem wp_odometry (hsince : Beginning since) (h : Within since n i flags s tr) :
    wp answered (InitGuard n) (At since n i flags) (fun _ => At since n i flags false)
      (ServerOdometryWorker.reinitWorkLoop i) s tr := by
  have hspeed : ∀ s tr, At since n i flags true s tr → wp answered (InitGuard n)
      (At since n i flags) (fun _ => At since n i flags false)
      (do
        probeFeature i .getSpeed .speed
        writeIsWorkLoopInitOk i true
        readIsWorkLoopInitOk i : ServerM Bool) s tr := by
    intro s tr h
    apply wp_seq (wp_probeFeature_early hsince rfl .speed h)
    exact fun _ s tr h => wp_finish hsince h.1
  refine wp_base hsince h fun s tr h => ?_
  apply wp_seq (R := fun _ => At since n i flags true)
  · apply wp_perform (o := Op.getPubAccumulateOdometry) (stable_answered _) h
    · exact fun s tr h => Op.Inner.guard hsince (o := Op.getPubAccumulateOdometry) trivial h.1
    · rintro s tr r s' h ⟨rfl, -⟩
      exact ⟨h.1.snoc hsince rfl fun _ _ => rfl, h.2⟩
  · intro pubAccumulateOdometry s tr h
    cases pubAccumulateOdometry with
    | false => exact hspeed s tr h
    | true =>
        apply wp_seq (wp_probeFeature_early hsince rfl .odoPose h)
        exact fun _ s tr h => hspeed s tr h

theorem wp_exploreMapUpdate (hsince : Beginning since) (h : Within since n i flags s tr) :
    wp answered (InitGuard n) (At since n i flags) (fun _ => At since n i flags false)
      (ServerExploreMapUpdateWorker.reinitWorkLoop i) s tr := by
  refine wp_base hsince h fun s tr h => wp_clear hsince h fun s tr h => ?_
  apply wp_seq (wp_inner hsince (Prog.uses_perform (o := Op.requestReinitMap i) trivial) h)
  exact fun _ s tr h => wp_finish hsince h.1

theorem wp_artifactLines (hsince : Beginning since) (h : Within since n i flags s tr) :
    wp answered (InitGuard n) (At since n i flags) (fun _ => At since n i flags false)
      (ServerArtifactLinesWorker.reinitWorkLoop i) s tr := by
  refine wp_base hsince h fun s tr h => wp_clear hsince h fun s tr h => ?_
  apply wp_seq (wp_inner hsince (uses_probeFeature _ _) h)
  intro _ s tr h
  apply wp_seq (wp_inner hsince (Prog.uses_perform (o := Op.readFeatureSupported i _) trivial) h)
  intro isFeatureSupported s tr h
  cases isFeatureSupported with
  | false => exact wp_finish hsince h.1
  | true =>
      apply wp_seq (wp_inner hsince uses_createPublisher h)
      intro _ s tr h
      apply wp_seq (wp_inner hsince uses_publish h)
      exact fun _ s tr h => wp_finish hsince h.1

theorem wp_readEvents (hsince : Beginning since) (h : Within since n i flags s tr) :
    wp answered (InitGuard n) (At since n i flags) (fun _ => At since n i flags false)
      (ServerReadEventsWorker.reinitWorkLoop i) s tr := by
  refine wp_base hsince h fun s tr h => wp_clear hsince h fun s tr h => ?_
  apply wp_seq (wp_inner hsince uses_createSystemEventProvider h)
  intro systemEventProvider s tr h
  cases systemEventProvider with
  | false => exact wp_read hsince h
  | true => exact wp_finish hsince h.1

theorem wp_imuRawData (hsince : Beginning since) (h : Within since n i flags s tr) :
    wp answered (InitGuard n) (At since n i flags) (fun _ => At since n i flags false)
      (ServerImuRawDataWorker.reinitWorkLoop i) s tr := by
  refine wp_base hsince h fun s tr h => ?_
  apply wp_seq (wp_probeFeature_early hsince rfl .supported h)
  exact fun _ s tr h => wp_finish hsince h.1

/-- The flag of a worker is what its `reinitWorkLoop` has returned, false after an exception. -/
theorem wp_reinitWorkLoop (hsince : Beginning since) (svrWk : WorkerKind)
    (h : Within since n i flags s tr) :
    wp answered (InitGuard n) (At since n i flags) (fun _ => At since n i flags false)
      (svrWk.reinitWorkLoop i) s tr := by
  cases svrWk with
  | robotDeviceInfo => exact wp_robotDeviceInfo hsince h
  | odometry => exact wp_odometry hsince h
  | exploreMapUpdate => exact wp_exploreMapUpdate hsince h
  | artifactLines => exact wp_artifactLines hsince h
  | readEvents => exact wp_readEvents hsince h
  | imuRawData => exact wp_imuRawData hsince h
  | rosConnect => exact wp_base hsince h fun s tr h => wp_finish hsince h.1
  | _ => exact wp_finish hsince h

end Workers

/-! ## The server -/

section Server

variable {since : ℕ → EventKind → Prop} {n : ℕ} {flags : ℕ → Bool} {s s' : State}
  {tr : List ServerEvent}

theorem Settled.snoc (hsince : Beginning since) (h : Settled since n s tr) {o : Op} {r : Ret o}
    (ho : o.kind = .other) (hs : s'.isWorkLoopInitOk = s.isWorkLoopInitOk) :
    Settled since n s' (tr ++ [.op o r]) := by
  intro i hi hflag
  exact (h i hi (hs ▸ hflag)).snoc (fun he => hsince.not_other i (ho ▸ he))
    fun he => by cases ho.symm.trans he

/-- Between two calls, with the flags unchanged. -/
def Between (since : ℕ → EventKind → Prop) (n : ℕ) (flags : ℕ → Bool) (s : State)
    (tr : List ServerEvent) : Prop :=
  Settled since n s tr ∧ s.isWorkLoopInitOk = flags

theorem Between.enter (hsince : Beginning since) (h : Between since n flags s tr) (i : ℕ)
    (r : Unit) :
    Within since n i flags s (tr ++ [.op (.enterReinitWorkLoop i) r]) where
  within := last_snoc tr (Or.inl rfl) rfl
  frame j _ := congrFun h.2 j
  others j hj _ hflag := (h.1 j hj (h.2 ▸ hflag)).snoc (hsince.not_enter j i) nofun

/-- The flags after worker `i` has been called. -/
def After (since : ℕ → EventKind → Prop) (n i : ℕ) (flags : ℕ → Bool) (b : Bool) (s : State)
    (tr : List ServerEvent) : Prop :=
  Between since n (Function.update flags i b) s tr

theorem At.leave (hsince : Beginning since) {i : ℕ} {b : Bool} (h : At since n i flags b s tr)
    {result : Option Bool} (hresult : b = true → result = some true) (r : Unit) :
    After since n i flags b s (tr ++ [.op (.leaveReinitWorkLoop i result) r]) := by
  constructor
  · intro j hj hflag
    by_cases hji : j = i
    · subst hji
      have heq := hresult (h.2.symm.trans hflag)
      subst heq
      exact last_snoc tr (Or.inr rfl) rfl
    · refine (h.1.others j hj hji (h.1.frame j hji ▸ hflag)).snoc (hsince.not_leave j i result) ?_
      intro he
      cases he
      exact hji rfl
  · funext j
    by_cases hji : j = i
    · subst hji
      rw [Function.update_self, h.2]
    · rw [Function.update_of_ne hji, h.1.frame j hji]

theorem wp_callReinitWorkLoop (hsince : Beginning since) (svrWk : WorkerKind) (i : ℕ)
    (h : Between since n flags s tr) :
    wp answered (InitGuard n) (After since n i flags) (fun _ => After since n i flags false)
      (callReinitWorkLoop i svrWk) s tr := by
  apply wp_seq (R := fun _ => Within since n i flags)
  · apply wp_perform (o := Op.enterReinitWorkLoop i) (stable_answered _) h
    · exact fun s tr h => (h.1.honest hsince).guard nofun nofun
    · rintro s tr r s' h ⟨rfl, -⟩
      exact h.enter hsince i r
  have hleave : ∀ (b : Bool) (result : Option Bool) s tr, (b = true → result = some true) →
      At since n i flags b s tr → wp answered (InitGuard n) (fun _ => After since n i flags b)
        (fun _ => After since n i flags false)
        (perform (.leaveReinitWorkLoop i result)) s tr := by
    intro b result s tr hresult h
    apply wp_perform (o := Op.leaveReinitWorkLoop i result) (stable_answered _) h
    · exact fun s tr h => (h.1.honest hsince).guard nofun nofun
    · rintro s tr r s' h ⟨rfl, -⟩
      exact h.leave hsince hresult r
  intro _ s tr h
  apply wp_seq (R := At since n i flags)
  · apply wp_tryCatch.mpr
    refine wp_mono (wp_reinitWorkLoop hsince svrWk h) (fun _ _ _ h => h) fun e s tr h => ?_
    apply wp_seq (hleave false none s tr nofun h)
    exact fun _ _ _ h => h
  · intro ok s tr h
    apply wp_seq (hleave ok (some ok) s tr (fun hok => congrArg some hok) h)
    exact fun _ _ _ h => h

theorem wp_outer (hsince : Beginning since) {α : Type} {p : ServerM α} (hp : p.Uses Op.Outer)
    (h : Between since n flags s tr) :
    wp answered (InitGuard n) (fun _ => Between since n flags) (fun _ => Between since n flags)
      p s tr := by
  refine wp_of_uses hp (stable_answered _) h ?_ ?_
  · intro s tr o ho h
    apply (h.1.honest hsince).guard
    · rintro j rfl
      exact ho.elim
    · rintro rfl
      exact ho.elim
  · rintro s tr o r s' ho h ⟨hr, -⟩
    have hflags := flags_eq (Or.inr ho) hr
    exact ⟨h.1.snoc hsince ho.kind_eq hflags, hflags.trans h.2⟩

/-- Reading a flag between two calls. -/
theorem wp_readFlag (hsince : Beginning since) (i : ℕ) (h : Between since n flags s tr) :
    wp answered (InitGuard n) (fun ok s tr => Between since n flags s tr ∧ ok = flags i)
      (fun _ _ _ => False) (readIsWorkLoopInitOk i) s tr := by
  apply wp_perform (o := Op.readIsWorkLoopInitOk i) (stable_answered _) h
  · exact fun s tr h => (h.1.honest hsince).guard nofun nofun
  · rintro s tr r s' h ⟨⟨hr, rfl⟩, -⟩
    exact ⟨⟨h.1.snoc hsince rfl rfl, h.2⟩, hr.trans (congrFun h.2 i)⟩

/-- A worker is counted exactly when its flag is up afterwards. -/
theorem wp_initWorker (hsince : Beginning since) (svrWk : WorkerKind) (i cntOk : ℕ)
    (h : Between since n flags s tr) :
    wp answered (InitGuard n)
      (fun cnt s tr => ∃ b, After since n i flags b s tr ∧ cnt = if b then cntOk + 1 else cntOk)
      (fun _ => Settled since n) (initWorker threadCalls () (svrWk, i) cntOk) s tr := by
  apply WorkThread.wp_initWorker
  refine wp_mono (wp_readFlag hsince i h) ?_ fun _ _ _ h => h
  rintro ok s tr ⟨h, hok⟩
  split_ifs with hup
  · refine ⟨true, ?_, rfl⟩
    rw [After, ← hup, hok, Function.update_eq_self]
    exact h
  · refine wp_mono (wp_callReinitWorkLoop hsince svrWk i h) (fun ok s tr h => ⟨ok, h, rfl⟩) ?_
    intro e s tr h
    split_ifs
    · exact h.1
    · exact ⟨false, h, rfl⟩

/-- No more workers are counted than there are, and only if all are counted are all flags up. -/
def Counted (since : ℕ → EventKind → Prop) (n k cntOk : ℕ) (s : State) (tr : List ServerEvent) :
    Prop :=
  Settled since n s tr ∧ cntOk ≤ k ∧ (cntOk = k → ∀ j < k, s.isWorkLoopInitOk j = true)

/-- One more worker, ok or not. -/
theorem Counted.succ {k cntOk cnt : ℕ} {b : Bool} (h : Counted since n k cntOk s tr)
    {s' : State} {tr' : List ServerEvent} (hafter : After since n k s.isWorkLoopInitOk b s' tr')
    (hcnt : cnt = if b then cntOk + 1 else cntOk) : Counted since n (k + 1) cnt s' tr' := by
  obtain ⟨-, hle, hall⟩ := h
  obtain ⟨hsettled, hflags⟩ := hafter
  cases b with
  | false =>
      have hcnt' : cnt = cntOk := hcnt
      exact ⟨hsettled, by omega, fun heq => by omega⟩
  | true =>
      have hcnt' : cnt = cntOk + 1 := hcnt
      refine ⟨hsettled, by omega, fun heq j hj => ?_⟩
      rw [hflags, Function.update_apply]
      split_ifs with hjk
      · rfl
      · exact hall (by omega) j (by omega)

theorem wp_initWorkers (hsince : Beginning since) (ws : List WorkerKind)
    (h : Settled since n s tr) :
    wp answered (InitGuard n) (fun cntOk => Counted since n ws.length cntOk)
      (fun _ => Settled since n) (initWorkers threadCalls () ws.zipIdx 0) s tr := by
  have hcount : Counted since n 0 0 s tr := ⟨h, le_rfl, fun _ _ hj => absurd hj (Nat.not_lt_zero _)⟩
  refine wp_mono (WorkThread.wp_initWorkers (I := Counted since n) ?_ hcount) ?_
    fun _ _ _ h => h
  · rintro k cntOk ⟨svrWk, i⟩ s tr hk h
    obtain rfl := zipIdx_at hk
    refine wp_mono (wp_initWorker hsince svrWk i cntOk ⟨h.1, rfl⟩) ?_ fun _ _ _ h => h
    rintro cnt s' tr' ⟨b, hafter, hcnt⟩
    exact h.succ hafter hcnt
  · intro cntOk s tr h
    rwa [List.length_zipIdx] at h

theorem Settled.between (h : Settled since n s tr) : Between since n s.isWorkLoopInitOk s tr :=
  ⟨h, rfl⟩

theorem wp_outer_settled (hsince : Beginning since) {α : Type} {p : ServerM α}
    (hp : p.Uses Op.Outer) (h : Settled since n s tr) :
    wp answered (InitGuard n) (fun _ => Settled since n) (fun _ => Settled since n) p s tr :=
  wp_mono (wp_outer hsince hp h.between) (fun _ _ _ h => h.1) fun _ _ _ h => h.1

theorem wp_outerOp (hsince : Beginning since) {o : Op} (ho : o.Outer) (h : Settled since n s tr) :
    wp answered (InitGuard n) (fun _ => Settled since n) (fun _ => Settled since n)
      (perform o) s tr :=
  wp_outer_settled hsince (Prog.uses_perform ho) h

theorem wp_tryInitWorkers (hsince : Beginning since) (ws : List WorkerKind) (left : ℕ)
    (h : Settled since n s tr) :
    wp answered (InitGuard n)
      (fun ok s tr => Settled since n s tr ∧
        (ok = true → ∀ i < ws.length, s.isWorkLoopInitOk i = true))
      (fun _ => Settled since n) (tryInitWorkers threadCalls () ws.zipIdx left) s tr := by
  refine wp_mono (WorkThread.wp_tryInitWorkers (J := Settled since n)
    (K := fun s tr => Settled since n s tr ∧ ∀ i < ws.length, s.isWorkLoopInitOk i = true)
    ?_ ?_ ?_ h) ?_ fun _ _ _ h => h
  · exact fun s tr h => wp_outerOp hsince (o := .shouldContinueRunning) trivial h
  · intro s tr h
    refine wp_mono (wp_initWorkers hsince ws h) ?_ fun _ _ _ h => h
    rintro cntOk s tr ⟨hsettled, -, hall⟩
    rw [List.length_zipIdx]
    split_ifs with hcnt
    · exact ⟨hsettled, hall hcnt.symm⟩
    · exact hsettled
  · exact fun s tr h => wp_outerOp hsince (o := .roughSleepWait) trivial h
  · intro ok s tr h
    cases ok with
    | false => exact ⟨h, nofun⟩
    | true => exact ⟨h.1, fun _ => h.2⟩

theorem wp_baseReset (i : ℕ) (h : Between SinceReset n flags s tr) :
    wp answered (InitGuard n) (fun _ => After SinceReset n i flags false)
      (fun _ => Settled SinceReset n) (ServerWorkerBase.resetOnWorkLoopBegin i) s tr := by
  apply wp_perform (o := Op.resetOnWorkLoopBegin i) (stable_answered _) h
  · exact fun s tr h => (h.1.honest beginning_sinceReset).guard nofun nofun
  · rintro s tr r s' ⟨hsettled, rfl⟩ ⟨rfl, -⟩
    refine ⟨fun j hj hflag => ?_, rfl⟩
    by_cases hji : j = i
    · subst hji
      simp [State.setInitOk] at hflag
    · simp only [State.setInitOk, Function.update_of_ne hji] at hflag
      refine (hsettled j hj hflag).snoc (fun he => ?_) nofun
      cases he
      exact hji rfl

theorem wp_resetOnWorkLoopBegin (svrWk : WorkerKind) (i : ℕ)
    (h : Between SinceReset n flags s tr) :
    wp answered (InitGuard n) (fun _ => After SinceReset n i flags false)
      (fun _ => Settled SinceReset n) (svrWk.resetOnWorkLoopBegin i) s tr := by
  cases svrWk with
  | artifactLines =>
      apply wp_seq (wp_mono (wp_outer beginning_sinceReset
        ((Prog.uses_perform (o := Op.createPublisher i) trivial).bind Prog.uses_ofExcept) h)
        (fun _ _ _ h => h) fun _ _ _ h => h.1)
      intro _ s tr h
      apply wp_seq (wp_mono (wp_outer beginning_sinceReset
        (Prog.uses_perform (o := Op.writeFeatureSupported i .supported false) trivial) h)
        (fun _ _ _ h => h) fun _ _ _ h => h.1)
      exact fun _ s tr h => wp_baseReset i h
  | _ => exact wp_baseReset i h

theorem wp_resetWorkers (ws : List WorkerKind) (h : Settled SinceReset n s tr) :
    wp answered (InitGuard n)
      (fun ok s tr => Settled SinceReset n s tr ∧
        (ok = true → ∀ j < ws.length, s.isWorkLoopInitOk j = false))
      (fun _ => Settled SinceReset n) (resetWorkers threadCalls () ws.zipIdx) s tr := by
  refine wp_mono (WorkThread.wp_resetWorkers (J := Settled SinceReset n)
    (I := fun k s tr => Settled SinceReset n s tr ∧ ∀ j < k, s.isWorkLoopInitOk j = false)
    ?_ ⟨h, nofun⟩) ?_ fun _ _ _ h => h
  · rintro k ⟨svrWk, i⟩ s tr hk ⟨h, hdown⟩
    obtain rfl := zipIdx_at hk
    refine wp_mono (wp_resetOnWorkLoopBegin svrWk i h.between) ?_ ?_
    · rintro _ s' tr' ⟨hsettled, hflags⟩
      refine ⟨hsettled, fun j hj => ?_⟩
      rw [hflags, Function.update_apply]
      split_ifs with hji
      · rfl
      · exact hdown j (by omega)
    · exact fun _ _ _ h => (ite_self _).mpr h
  · intro ok s tr h
    rw [List.length_zipIdx] at h
    cases ok with
    | false => exact ⟨h, nofun⟩
    | true => exact ⟨h.1, fun _ => h.2⟩

/-- All workers have been initialized in this session. -/
def Ready (n : ℕ) (s : State) (tr : List ServerEvent) : Prop :=
  Settled SinceSessionStart n s tr ∧ ∀ i < n, s.isWorkLoopInitOk i = true

theorem Settled.sinceReset (hsince : Beginning since) (h : Settled since n s tr) :
    Settled SinceReset n s tr :=
  fun i hi hflag => (h i hi hflag).sinceReset hsince

theorem Ready.allInitialized (h : Ready n s tr) : AllInitialized n tr :=
  fun i hi => h.1 i hi (h.2 i hi)

theorem wp_serverReinitWorkLoop (ws : List WorkerKind) (h : Settled SinceReset ws.length s tr) :
    wp answered (InitGuard ws.length)
      (fun ok s tr => Settled SinceReset ws.length s tr ∧ (ok = true → Ready ws.length s tr))
      (fun _ => Settled SinceReset ws.length) (reinitWorkLoop threadCalls () ws.zipIdx) s tr := by
  apply wp_seq (wp_resetWorkers ws h)
  rintro ok s tr ⟨h, hall⟩
  cases ok with
  | false => exact ⟨h, nofun⟩
  | true =>
      -- after the resets nothing has to be known about the session
      have hsession : Settled SinceSessionStart ws.length s tr := by
        intro i hi hflag
        rw [hall rfl i hi] at hflag
        cases hflag
      refine wp_mono (wp_tryInitWorkers beginning_sinceSessionStart ws maxLoopTryCnt hsession) ?_ ?_
      · exact fun ok s tr h => ⟨h.1.sinceReset beginning_sinceSessionStart,
          fun hok => ⟨h.1, h.2 hok⟩⟩
      · exact fun _ s tr h => h.sinceReset beginning_sinceSessionStart

/-- What `loopWork_` does once all workers are ready. -/
def Op.Performing (o : Op) : Prop :=
  o = .shouldContinueRunning ∨ ∃ i, o = .checkToPerform i

theorem wp_performing {α : Type} {p : ServerM α} (hp : p.Uses Op.Performing) (h : Ready n s tr) :
    wp answered (InitGuard n) (fun _ => Ready n) (fun _ => Ready n) p s tr := by
  refine wp_of_uses hp (stable_answered _) h ?_ ?_
  · exact fun s tr o _ h => ⟨h.1.honest beginning_sinceSessionStart, fun _ => h.allInitialized⟩
  · rintro s tr o r s' (rfl | ⟨i, rfl⟩) h ⟨rfl, -⟩ <;>
      exact ⟨h.1.snoc beginning_sinceSessionStart rfl rfl, h.2⟩

theorem wp_checkToPerform (i : ℕ) (h : Ready n s tr) :
    wp answered (InitGuard n) (fun _ => Ready n) (fun _ => Ready n) (checkToPerform i) s tr :=
  wp_performing ((Prog.uses_perform (o := Op.checkToPerform i) (Or.inr ⟨i, rfl⟩)).bind
    Prog.uses_ofExcept) h

theorem wp_performRounds (ws : List WorkerKind) (rounds : ℕ) (h : Ready n s tr) :
    wp answered (InitGuard n) (fun _ => Ready n) (fun _ => Ready n)
      (performRounds loopCalls () ws.zipIdx rounds) s tr := by
  refine WorkThread.wp_performRounds (A := Ready n) (B := Ready n) (D := fun _ => Ready n)
    (fun _ _ h => h) ?_ ?_ (fun _ _ _ h => h) h
  · refine fun s tr h => wp_mono (wp_performing (Prog.uses_perform
      (o := Op.shouldContinueRunning) (Or.inl rfl)) h) ?_ fun _ _ _ h => h
    exact fun _ _ _ h => (ite_self _).mpr h
  · refine fun s tr h => WorkThread.wp_performWorkers (I := fun _ _ => Ready n)
      (C := fun _ _ => Ready n) ?_ (fun _ _ _ _ _ _ h => h) h
    rintro k ⟨svrWk, i⟩ _ s tr - h
    refine WorkThread.wp_performWorker (wp_mono (wp_checkToPerform i h) (fun _ _ _ h => h) ?_)
    intro e s tr h
    split_ifs <;> exact h

theorem wp_getPlatform (h : Settled SinceReset n s tr) :
    wp answered (InitGuard n)
      (fun pltfm s tr => pltfm.elim (Settled SinceReset n s tr) fun _ => Settled SinceReset n s tr)
      (fun _ => Settled SinceReset n) safeGetSlamwarePlatform s tr := by
  apply wp_seq (R := fun _ => Settled SinceReset n)
  · apply wp_perform (o := Op.safeGetSlamwarePlatform) (stable_answered _) h
    · exact fun s tr h => (h.honest beginning_sinceReset).guard nofun nofun
    · rintro s tr r s' h ⟨⟨-, rfl⟩, -⟩ i hi hflag
      exact (h i hi hflag).snoc nofun nofun
  · intro pltfm s tr h
    cases pltfm with
    | false => exact h
    | true => exact h

theorem wp_logReinitWorkLoop (ok : Bool)
    (h : Settled SinceReset n s tr ∧ (ok = true → Ready n s tr)) :
    wp answered (InitGuard n)
      (fun _ s tr => Settled SinceReset n s tr ∧ (ok = true → Ready n s tr))
      (fun _ => Settled SinceReset n) (perform (.logReinitWorkLoop ok)) s tr := by
  apply wp_perform (o := Op.logReinitWorkLoop ok) (stable_answered fun s tr =>
    Settled SinceReset n s tr ∧ (ok = true → Ready n s tr)) h
  · refine fun s tr h => ⟨h.1.honest beginning_sinceReset, ?_⟩
    rintro (⟨j, hj⟩ | hj)
    · cases hj
    · cases hj
      exact (h.2 rfl).allInitialized
  · rintro s tr r s' h ⟨rfl, -⟩
    exact ⟨h.1.snoc beginning_sinceReset rfl rfl, fun hok =>
      ⟨(h.2 hok).1.snoc beginning_sinceSessionStart rfl rfl, (h.2 hok).2⟩⟩

theorem wp_loopWork (ws : List WorkerKind) (rounds : ℕ) (h : Settled SinceReset ws.length s tr) :
    wp answered (InitGuard ws.length) (fun _ => Settled SinceReset ws.length)
      (fun _ => Settled SinceReset ws.length) (loopWork threadCalls ws.zipIdx rounds) s tr := by
  refine WorkThread.wp_loopWork (I := fun _ => Settled SinceReset ws.length)
    (R := fun _ => Ready ws.length) (wp_getPlatform h) ?_ ?_
  · refine fun _ s tr h => wp_mono (wp_serverReinitWorkLoop ws h) ?_ fun _ _ _ h => h
    refine fun ok s tr h => wp_mono (wp_logReinitWorkLoop ok h) ?_ fun _ _ _ h => h
    rintro _ s tr ⟨h, hready⟩
    split_ifs with hok
    · exact hready hok
    · exact h
  · exact fun _ s tr h => wp_mono (wp_performRounds ws rounds h)
      (fun _ _ _ h => h.1.sinceReset beginning_sinceSessionStart)
      fun _ _ _ h => h.1.sinceReset beginning_sinceSessionStart

theorem wp_session (ws : List WorkerKind) (rounds : ℕ) (h : Settled SinceReset ws.length s tr) :
    wp answered (InitGuard ws.length) (fun _ => Settled SinceReset ws.length)
      (fun _ => Settled SinceReset ws.length) (session threadCalls ws.zipIdx rounds) s tr := by
  refine WorkThread.wp_session (C := Settled SinceReset ws.length)
    (D := Settled SinceReset ws.length) ?_ ?_ ?_ ?_ ?_
  · refine wp_mono (wp_outerOp beginning_sinceReset (o := .safeIsSlamwarePlatformConnected)
      trivial h) ?_ fun _ _ _ h => h
    exact fun _ _ _ h => (ite_self _).mpr h
  · exact fun s tr h => wp_mono (wp_loopWork ws rounds h) (fun _ _ _ h => h)
      fun _ _ _ h => (ite_self _).mpr h
  · exact fun s tr h =>
      wp_outerOp beginning_sinceReset (o := .safeReleaseSlamwarePlatform) trivial h
  · exact fun s tr h => wp_outerOp beginning_sinceReset (o := .shouldContinueRunning) trivial h
  · exact fun s tr h => wp_outerOp beginning_sinceReset (o := .roughSleepWait) trivial h

theorem wp_checkToConnect (h : Settled SinceReset n s tr) :
    wp answered (InitGuard n) (fun _ => Settled SinceReset n) (fun _ => Settled SinceReset n)
      (checkToConnect threadCalls) s tr := by
  refine wp_mono (WorkThread.wp_checkToConnect (B := Settled SinceReset n)
    (C := Settled SinceReset n) (N := Settled SinceReset n) ?_ ?_ h)
    (fun _ _ _ h => (ite_self _).mp h) fun _ _ _ h => h
  · refine fun s tr h => wp_mono (wp_outerOp beginning_sinceReset
      (o := .safeIsSlamwarePlatformConnected) trivial h) ?_ fun _ _ _ h => h
    exact fun _ _ _ h => (ite_self _).mpr h
  · exact fun s tr h =>
      wp_outerOp beginning_sinceReset (o := .loopTryConnectToSlamwarePlatform) trivial h

theorem wp_workThreadFun (ws : List WorkerKind) (rounds sessions : ℕ)
    (h : Settled SinceReset ws.length s tr) :
    wp answered (InitGuard ws.length) (fun _ => Settled SinceReset ws.length)
      (fun _ => Settled SinceReset ws.length)
      (workThreadFun threadCalls ws.zipIdx rounds sessions) s tr := by
  refine WorkThread.wp_workThreadFun (C := Settled SinceReset ws.length) ?_ ?_ ?_ ?_ h
  · exact fun s tr h => wp_outerOp beginning_sinceReset (o := .shouldContinueRunning) trivial h
  · exact fun s tr h => wp_outerOp beginning_sinceReset (o := .rclcppOk) trivial h
  · exact fun s tr h => wp_mono (wp_checkToConnect h) (fun _ _ _ h => (ite_self _).mpr h)
      fun _ _ _ h => h
  · exact fun s tr h => wp_session ws rounds h

end Server

/-- While every early call is answered, the flags are honest, and no worker
performs, nor is success reported, before all are initialized in this session. -/
theorem init_honest {ws : List WorkerKind} {rounds sessions : ℕ} {c : ServerConfig}
    (h : Reachable system noJobs (ServerConfig.init ws rounds sessions) c)
    (hearly : ∀ o r, .op o r ∈ c.trace → EarlyCallAnswered o r) :
    InitHonest ws.length c.state c.trace ∧
      ∀ o k, c.prog = .call o k → (∃ i, o = .checkToPerform i) ∨ o = .logReinitWorkLoop true →
        AllInitialized ws.length c.trace := by
  have hstart : Settled SinceReset ws.length State.init ([] : List ServerEvent) :=
    fun _ _ hflag => nomatch hflag
  have hwp := wp_reachable (fun _ => stable_answered _) (fun _ => stable_answered _)
    (fun j => j.elim) (wp_workThreadFun ws rounds sessions hstart) (h.restrict hearly)
  obtain ⟨p, s, tr⟩ := c
  cases p with
  | ret a => exact ⟨Settled.honest beginning_sinceReset hwp, nofun⟩
  | throw e => exact ⟨Settled.honest beginning_sinceReset hwp, nofun⟩
  | call o k =>
      obtain ⟨hhonest, hall⟩ := (hwp s tr .refl).1
      refine ⟨hhonest, ?_⟩
      rintro o' k' heq
      cases heq
      exact hall

/-! ## A worker that performs half initialized -/

/-- A robot that answers every platform call in a fixed way, on a server that is not stopped. -/
def handler (platform : PlatformCall → Except Exn Unit) : (o : Op) → State → Ret o × State
  | .safeIsSlamwarePlatformConnected, s => (s.connected, s)
  | .loopTryConnectToSlamwarePlatform, s => ((), { s with connected := true })
  | .safeGetSlamwarePlatform, s => (s.connected, s)
  | .safeReleaseSlamwarePlatform, s => ((), { s with connected := false })
  | .shouldContinueRunning, s => (true, s)
  | .rclcppOk, s => (true, s)
  | .roughSleepWait, s => ((), s)
  | .logReinitWorkLoop _, s => ((), s)
  | .resetOnWorkLoopBegin i, s => ((), s.setInitOk i false)
  | .enterReinitWorkLoop _, s => ((), s)
  | .leaveReinitWorkLoop _ _, s => ((), s)
  | .readIsWorkLoopInitOk i, s => (s.isWorkLoopInitOk i, s)
  | .writeIsWorkLoopInitOk i b, s => ((), s.setInitOk i b)
  | .readFeatureSupported i feature, s => (s.isFeatureSupported i feature, s)
  | .writeFeatureSupported i feature b, s => ((), { s with
      isFeatureSupported := fun j f =>
        if j = i ∧ f = feature then b else s.isFeatureSupported j f })
  | .requestReinitMap i, s => ((), { s with
      shouldReinitMap := Function.update s.shouldReinitMap i true })
  | .callPlatform _ call, s => (platform call, s)
  | .createSystemEventProvider _, s => (.ok true, s)
  | .createPublisher _, s => (.ok (), s)
  | .publish _, s => (.ok (), s)
  | .getPubAccumulateOdometry, s => (true, s)
  | .checkToPerform _, s => (.ok (), s)

theorem handle_handler (platform : PlatformCall → Except Exn Unit) (s : State) (o : Op) :
    system.handle s o (handler platform o s).1 (handler platform o s).2 := by
  cases o with
  | safeIsSlamwarePlatformConnected => exact ⟨rfl, rfl⟩
  | loopTryConnectToSlamwarePlatform => exact ⟨true, rfl⟩
  | safeGetSlamwarePlatform => exact ⟨rfl, rfl⟩
  | readIsWorkLoopInitOk i => exact ⟨rfl, rfl⟩
  | readFeatureSupported i feature => exact ⟨rfl, rfl⟩
  | _ => rfl

/-- The workers of a server whose publication periods are all zero. -/
def alwaysWorkers : List WorkerKind := [.robotDeviceInfo, .readEvents, .imuRawData, .rosConnect]

def fixedRun (platform : PlatformCall → Except Exn Unit) (ops : ℕ) : ℕ → ServerConfig :=
  (ServerConfig.init alwaysWorkers 1 1).runOf (handler platform) (fun a => a.elim) noJobs
    (List.replicate ops .op)

/-- The first request for the raw data of the IMU fails. -/
def imuFails : PlatformCall → Except Exn Unit
  | .getImuRawData => .error .operationFail
  | _ => .ok ()

/-- The second try skips the worker whose first try has failed. -/
theorem init_not_honest :
    ¬∀ (ws : List WorkerKind) (rounds sessions : ℕ) (c : ServerConfig),
      Reachable system noJobs (ServerConfig.init ws rounds sessions) c →
        InitHonest ws.length c.state c.trace ∧
          ∀ o k, c.prog = .call o k →
            (∃ i, o = .checkToPerform i) ∨ o = .logReinitWorkLoop true →
              AllInitialized ws.length c.trace := by
  intro hholds
  have hplay : ((ServerConfig.init alwaysWorkers 1 1).play (handler imuFails) (fun a => a.elim)
      noJobs (List.replicate 54 .op)).isSome := by decide +kernel
  have hrun : IsRun system noJobs (fixedRun imuFails 54) 54 :=
    isRun_runOf (handle_handler imuFails) (fun _ a => a.elim) hplay
  have hreach := hrun.reachable (i := 54) le_rfl
  have hflag : (fixedRun imuFails 54 54).state.isWorkLoopInitOk 2 = true := by decide +kernel
  have henter : ∀ l < 54, ((fixedRun imuFails 54 54).trace.map kind)[l]? = some (.enter 2) →
      l < 38 := by decide +kernel
  have hleave : ((fixedRun imuFails 54 54).trace.map kind)[38]? = some (.leave 2 none) := by
    decide +kernel
  have hnever : .leave 2 (some true) ∉ (fixedRun imuFails 54 54).trace.map kind := by
    decide +kernel
  have hlen : (fixedRun imuFails 54 54).trace.length = 54 := by decide +kernel
  rw [show fixedRun imuFails 54 0 = ServerConfig.init alwaysWorkers 1 1 from rfl] at hreach
  generalize fixedRun imuFails 54 54 = c at hreach hflag henter hleave hnever hlen
  have hout : ¬WithinReinit 2 c.trace := by
    rintro ⟨l, x, hx, -, hkx, hnone⟩
    obtain ⟨y, hy, hky⟩ := exists_of_map_at hleave
    have hl := henter l (hlen ▸ lt_length hx) ((map_at hx).trans (congrArg some hkx))
    exact hnone 38 y hl hy (Or.inr ⟨none, hky⟩)
  obtain ⟨l, x, hx, -, hkx, -⟩ := (hholds _ 1 1 c hreach).1 2 (by decide) hflag hout
  refine hnever (List.mem_map.mpr ⟨x, List.mem_of_getElem? hx, hkx⟩)

/-- On a robot that answers everything the workers start to perform, all of them initialized. -/
theorem init_honest_answered :
    ∃ c : ServerConfig, (∃ k, c.prog = .call (.checkToPerform 0) k) ∧
      InitHonest 4 c.state c.trace ∧ AllInitialized 4 c.trace := by
  have hplay : ((ServerConfig.init alwaysWorkers 1 1).play (handler fun _ => .ok ())
      (fun a => a.elim) noJobs (List.replicate 51 .op)).isSome := by decide +kernel
  have hhandle : ∀ s o, answered.handle s o (handler (fun _ => .ok ()) o s).1
      (handler (fun _ => .ok ()) o s).2 := by
    intro s o
    refine ⟨handle_handler _ s o, ?_⟩
    cases o with
    | callPlatform i call => exact fun _ => nofun
    | _ => trivial
  have hrun : IsRun answered noJobs (fixedRun (fun _ => .ok ()) 51) 51 :=
    isRun_runOf hhandle (fun _ a => a.elim) hplay
  obtain ⟨hreach, hearly⟩ := (hrun.reachable (i := 51) le_rfl).of_restrict nofun
  have hnext : (fixedRun (fun _ => .ok ()) 51 51).prog.next = some (.checkToPerform 0) := by
    decide +kernel
  rw [show fixedRun _ 51 0 = ServerConfig.init alwaysWorkers 1 1 from rfl] at hreach
  generalize fixedRun (fun _ => .ok ()) 51 51 = c at hreach hearly hnext
  obtain ⟨k, hk⟩ := Prog.eq_call_of_next hnext
  obtain ⟨hhonest, hall⟩ := init_honest hreach hearly
  exact ⟨c, ⟨k, hk⟩, hhonest, hall _ k hk (Or.inl ⟨0, rfl⟩)⟩

end Ros2WsDemo.WorkLoop

import Ros2WsDemo.Stcm.Server

/-!
# What a failed upload leaves behind

Setting a map is a chain of platform calls with nothing that undoes them.  When
one of them throws, the settings are those the calls up to there have made.
-/

namespace Ros2WsDemo.Stcm

open Effect

variable {M P RosPose ρ : Type}

/-! ## Settings -/

/-- The robot's map, and whether localization and the update of the map are enabled. -/
structure Settings (M : Type) where
  map : M
  localization : Bool
  mapUpdate : Bool
  deriving DecidableEq, Repr

/-- What a platform call is for; `cleared` is the map that clearing leaves. -/
def PlatformCall.effect (cleared : M) : PlatformCall M P → Settings M → Settings M
  | .clearMap, x => { x with map := cleared }
  | .setMapLocalization localization, x => { x with localization := localization }
  | .setMapUpdate update, x => { x with mapUpdate := update }
  | .setCompositeMap map _, x => { x with map := map }
  | .getCurrentAction, x => x
  | .cancel, x => x

def effects (cleared : M) (cs : List (PlatformCall M P)) (x : Settings M) : Settings M :=
  cs.foldl (fun x c => c.effect cleared x) x

/-- The settings of a robot.  A platform call has its effect on them or none,
whatever it answers. -/
structure Robot.HasSettings (R : Robot M P ρ) where
  settings : ρ → Settings M
  cleared : M
  call_settings : ∀ c s, settings (R.call c s).2 = settings s ∨
    settings (R.call c s).2 = c.effect cleared (settings s)

/-- After a run of calls the settings are changed by those that had their effect. -/
theorem Robot.HasSettings.after {R : Robot M P ρ} (S : R.HasSettings)
    (cs : List (PlatformCall M P)) (s : ρ) :
    ∃ effective, effective.Sublist cs ∧
      S.settings (R.after cs s) = effects S.cleared effective (S.settings s) := by
  induction cs generalizing s with
  | nil => exact ⟨[], List.Sublist.slnil, rfl⟩
  | cons c cs ih =>
      obtain ⟨effective, hsub, hafter⟩ := ih (R.call c s).2
      rcases S.call_settings c s with hnone | heffect
      · exact ⟨effective, hsub.cons c, by rw [← hnone]; exact hafter⟩
      · refine ⟨c :: effective, hsub.cons_cons c, ?_⟩
        rw [effects, List.foldl_cons, ← heffect]
        exact hafter

/-- A setting that none of the calls is about stays as it was. -/
theorem effects_eq {β : Type} (f : Settings M → β) {cleared : M} {cs : List (PlatformCall M P)}
    (h : ∀ c ∈ cs, ∀ x, f (c.effect cleared x) = f x) (x : Settings M) :
    f (effects cleared cs x) = f x := by
  induction cs generalizing x with
  | nil => rfl
  | cons c cs ih =>
      calc f (effects cleared (c :: cs) x)
          = f (effects cleared cs (c.effect cleared x)) := rfl
        _ = f (c.effect cleared x) := ih (fun c hc => h c (List.mem_cons_of_mem _ hc)) _
        _ = f x := h c List.mem_cons_self x

/-- The calls before the first `x` of a sequence. -/
theorem prefix_of_notMem {α : Type} {done before rest : List α} {x : α}
    (h : done <+: before ++ x :: rest) (hx : x ∉ done) : done <+: before := by
  have hupTo : before ++ [x] <+: before ++ x :: rest := ⟨rest, by simp⟩
  rcases List.prefix_or_prefix_of_prefix h hupTo with hle | hge
  · rcases List.prefix_concat_iff.mp hle with heq | hle
    · exact absurd (heq ▸ List.mem_append_right _ List.mem_cons_self) hx
    · exact hle
  · exact absurd (hge.subset (List.mem_append_right _ List.mem_cons_self)) hx

/-! ## The callback -/

section Callback

variable (R : Robot M P ρ) (format : StcmFormat M) (rosMsgToSltc : RosPose → P)
  (req : SyncSetStcm.Request RosPose) (resp : SyncSetStcm.Response) (s : State ρ)

/-- The bytes cannot be decoded, every platform call runs, or one of them throws. -/
theorem eval_srvCbSyncSetStcm :
    (format.loadStream req.rawStcm = none ∧
      (srvCbSyncSetStcm format rosMsgToSltc req resp).eval (handler R) s =
        (.ok (false, resp), s)) ∨
    ∃ map, format.loadStream req.rawStcm = some map ∧
      let cs := uploadCalls (R.hasAction s.robot) map (rosMsgToSltc req.robotPose)
      ((R.Runs cs s.robot ∧
        (srvCbSyncSetStcm format rosMsgToSltc req resp).eval (handler R) s =
          (.ok (true, resp), ⟨s.syncMapRequested.map fun _ => true, R.after cs s.robot⟩)) ∨
      ∃ done c rest e, cs = done ++ c :: rest ∧ R.Runs done s.robot ∧
        (R.call c (R.after done s.robot)).1 = .error e ∧
        (srvCbSyncSetStcm format rosMsgToSltc req resp).eval (handler R) s =
          (if e.1.isStd then .ok (false, resp) else .error e,
            ⟨s.syncMapRequested, R.after (done ++ [c]) s.robot⟩)) := by
  cases hload : format.loadStream req.rawStcm with
  | none => exact Or.inl ⟨rfl, by simp [srvCbSyncSetStcm, hload, rclcppError]⟩
  | some map =>
      refine Or.inr ⟨map, rfl, ?_⟩
      rcases eval_performAll (R := R) (s := s)
          (uploadCalls (R.hasAction s.robot) map (rosMsgToSltc req.robotPose)) with
        ⟨hruns, heval⟩ | ⟨done, c, rest, e, hcs, hruns, herror, heval⟩
      · refine Or.inl ⟨hruns, ?_⟩
        simp [srvCbSyncSetStcm, hload, eval_uploadCompositeMap, heval, requestSyncMap]
      · refine Or.inr ⟨done, c, rest, e, hcs, hruns, herror, ?_⟩
        cases hstd : e.1.isStd <;>
          simp [srvCbSyncSetStcm, hload, eval_uploadCompositeMap, heval, hstd, rclcppWarn]

end Callback

/-! ## Failed uploads -/

/-- What an upload without success may have done to the settings.  Nothing, where
the bytes cannot be decoded.  Otherwise a call `c` has thrown after the calls
`done`; some of these calls have had their effect, and a flag is as before
unless the call that disables it is among them. -/
def Unfinished {R : Robot M P ρ} (S : R.HasSettings) (format : StcmFormat M)
    (req : SyncSetStcm.Request RosPose) (robotPose : P) (s : ρ) (settings' : Settings M) : Prop :=
  (format.loadStream req.rawStcm = none ∧ settings' = S.settings s) ∨
  ∃ map done c rest, format.loadStream req.rawStcm = some map ∧
    uploadCalls (R.hasAction s) map robotPose = done ++ c :: rest ∧
    R.Runs done s ∧ (R.call c (R.after done s)).1.isOk = false ∧
    (∃ effective, effective.Sublist (done ++ [c]) ∧
      settings' = effects S.cleared effective (S.settings s)) ∧
    (.setMapLocalization false ∉ done ++ [c] →
      settings'.localization = (S.settings s).localization) ∧
    (.setMapUpdate false ∉ done ++ [c] → settings'.mapUpdate = (S.settings s).mapUpdate)

/-- A setting that no call before `x` is about is untouched as long as `x` is not reached. -/
theorem effects_eq_of_notMem {β : Type} (f : Settings M → β) {cleared : M}
    {done effective before rest : List (PlatformCall M P)} {x : PlatformCall M P}
    (hbefore : ∀ c ∈ before, ∀ y, f (c.effect cleared y) = f y)
    (hdone : done <+: before ++ x :: rest) (hnot : x ∉ done) (hsub : effective.Sublist done)
    (y : Settings M) : f (effects cleared effective y) = f y :=
  effects_eq f (fun c hc => hbefore c ((prefix_of_notMem hdone hnot).subset (hsub.subset hc))) y

theorem uploadCalls_eq_localization (tAct : Bool) (map : M) (robotPose : P) :
    ∃ before rest, uploadCalls tAct map robotPose = before ++ .setMapLocalization false :: rest ∧
      ∀ c ∈ before, ∀ (cleared : M) (x : Settings M),
        (c.effect cleared x).localization = x.localization := by
  refine ⟨[.clearMap, .getCurrentAction] ++ if tAct then [.cancel] else [], _, rfl, ?_⟩
  intro c hc cleared x
  cases tAct <;> simp at hc <;> rcases hc with rfl | rfl | rfl <;> rfl

theorem uploadCalls_eq_mapUpdate (tAct : Bool) (map : M) (robotPose : P) :
    ∃ before rest, uploadCalls tAct map robotPose = before ++ .setMapUpdate false :: rest ∧
      ∀ c ∈ before, ∀ (cleared : M) (x : Settings M),
        (c.effect cleared x).mapUpdate = x.mapUpdate := by
  refine ⟨[.clearMap, .getCurrentAction] ++ (if tAct then [.cancel] else []) ++
    [.setMapLocalization false], [.setCompositeMap map robotPose, .setMapLocalization true],
    by simp [uploadCalls], ?_⟩
  intro c hc cleared x
  cases tAct <;> simp at hc <;> rcases hc with rfl | rfl | rfl | rfl <;> rfl

theorem srvCbSyncSetStcm_unfinished {R : Robot M P ρ} (S : R.HasSettings) (format : StcmFormat M)
    (rosMsgToSltc : RosPose → P) (req : SyncSetStcm.Request RosPose) (resp : SyncSetStcm.Response)
    (s : State ρ)
    (hfail : Prod.fst <$>
      ((srvCbSyncSetStcm format rosMsgToSltc req resp).eval (handler R) s).1 ≠ .ok true) :
    Unfinished S format req (rosMsgToSltc req.robotPose) s.robot (S.settings
      ((srvCbSyncSetStcm format rosMsgToSltc req resp).eval (handler R) s).2.robot) := by
  rcases eval_srvCbSyncSetStcm R format rosMsgToSltc req resp s with
    ⟨hload, heval⟩ | ⟨map, hload, ⟨-, heval⟩ | ⟨done, c, rest, e, hcs, hruns, herror, heval⟩⟩
  · rw [heval]
    exact Or.inl ⟨hload, rfl⟩
  · rw [heval] at hfail
    exact absurd rfl hfail
  · rw [heval]
    obtain ⟨effective, hsub, hafter⟩ := S.after (done ++ [c]) s.robot
    have hprefix : done ++ [c] <+: uploadCalls (R.hasAction s.robot) map
        (rosMsgToSltc req.robotPose) := ⟨rest, by rw [hcs]; simp⟩
    refine Or.inr ⟨map, done, c, rest, hload, hcs, hruns, by rw [herror]; rfl,
      ⟨effective, hsub, hafter⟩, fun hnot => ?_, fun hnot => ?_⟩
    · obtain ⟨before, rest', hsplit, hbefore⟩ := uploadCalls_eq_localization
        (R.hasAction s.robot) map (rosMsgToSltc req.robotPose)
      rw [hafter]
      exact effects_eq_of_notMem Settings.localization (fun c hc => hbefore c hc S.cleared)
        (hsplit ▸ hprefix) hnot hsub _
    · obtain ⟨before, rest', hsplit, hbefore⟩ := uploadCalls_eq_mapUpdate
        (R.hasAction s.robot) map (rosMsgToSltc req.robotPose)
      rw [hafter]
      exact effects_eq_of_notMem Settings.mapUpdate (fun c hc => hbefore c hc S.cleared)
        (hsplit ▸ hprefix) hnot hsub _

/-! ### A platform on which one call fails -/

/-- Every call has its effect, only `broken` throws and has none. -/
def robotFailingAt (broken : PlatformCall UInt8 Unit) : Robot UInt8 Unit (Settings UInt8) where
  connected x := (true, x)
  call c x := if c = broken then (.error ⟨.connectionLost, rfl⟩, x) else (.ok true, c.effect 0 x)
  getCompositeMap x := (.ok x.map, x)
  allocate _ x := (.ok (), x)

def robotFailingAt_settings (broken : PlatformCall UInt8 Unit) :
    (robotFailingAt broken).HasSettings where
  settings := id
  cleared := 0
  call_settings c x := by
    by_cases h : c = broken
    · exact Or.inl (by simp [robotFailingAt, h])
    · exact Or.inr (by simp [robotFailingAt, h])

/-- A map is one byte. -/
def oneByte : StcmFormat UInt8 where
  loadStream := List.head?
  saveStream map := some [map]

theorem srvCbSyncSetStcm_unfinished_setCompositeMap :
    Unfinished (robotFailingAt_settings (.setCompositeMap 7 ())) oneByte
      (⟨[7], ()⟩ : SyncSetStcm.Request Unit) () ⟨3, true, true⟩ ⟨0, false, false⟩ :=
  srvCbSyncSetStcm_unfinished (robotFailingAt_settings (.setCompositeMap 7 ())) oneByte id
    ⟨[7], ()⟩ ⟨⟩ ⟨some false, ⟨3, true, true⟩⟩ (by decide)

/-- When `setCompositeMap` throws, the map is gone and both flags are off. -/
theorem upload_not_atomic :
    ¬∀ (M P RosPose ρ : Type) (R : Robot M P ρ) (S : R.HasSettings) (format : StcmFormat M)
      (rosMsgToSltc : RosPose → P) (req : SyncSetStcm.Request RosPose)
      (resp resp' : SyncSetStcm.Response) (s : State ρ),
      let run := (srvCbSyncSetStcm format rosMsgToSltc req resp).eval (handler R) s
      run.1 = .ok (false, resp') → S.settings run.2.robot = S.settings s.robot := by
  intro hholds
  have hsame := hholds UInt8 Unit Unit (Settings UInt8) (robotFailingAt (.setCompositeMap 7 ()))
    (robotFailingAt_settings _) oneByte id ⟨[7], ()⟩ ⟨⟩ ⟨⟩ ⟨some false, ⟨3, true, true⟩⟩ rfl
  exact absurd hsame (by decide)

end Ros2WsDemo.Stcm

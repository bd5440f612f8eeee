import Ros2WsDemo.Stcm.Client

/-!
# Do client and server agree on a map transfer?

The server's callbacks return `true` exactly when the transfer works: the robot
is connected, the bytes can be decoded or made, and no call throws.  The client
sees none of this, so it agrees with the server only then, or when it fails by itself.
-/

namespace Ros2WsDemo.Stcm

open Effect

section Model

variable {M P RosPose ρ φ : Type}

/-! ## What the callbacks return -/

section Server

variable (R : Robot M P ρ) (format : StcmFormat M)

/-- In this state of the robot its current map can be read, as these bytes. -/
def SavesMap (s : ρ) (bytes : List UInt8) : Prop :=
  let s₁ := (R.allocate (1024 * 1024 * 8) s).2
  (R.allocate (1024 * 1024 * 8) s).1.isOk ∧
    ∃ map, (R.getCompositeMap s₁).1 = .ok map ∧ format.saveStream map = some bytes ∧
      (R.allocate bytes.length (R.getCompositeMap s₁).2).1.isOk

/-- From this state the robot's current map can be handed out, as these bytes. -/
def Downloads (s : ρ) (bytes : List UInt8) : Prop :=
  (R.connected s).1 = true ∧ SavesMap R format (R.connected s).2 bytes

/-- From this state the bytes can be set as the robot's map. -/
def Uploads (s : ρ) (bytes : List UInt8) (robotPose : P) : Prop :=
  let s₁ := (R.connected s).2
  (R.connected s).1 = true ∧ ∃ map, format.loadStream bytes = some map ∧
    R.Runs (uploadCalls (R.hasAction s₁) map robotPose) s₁

theorem eval_srvCbWrapperFun {Resp : Type} (cb : Resp → ServerM M P (Bool × Resp)) (resp : Resp)
    (s : State ρ) :
    ((srvCbWrapperFun cb resp).eval (handler R) s).1 =
      if (R.connected s.robot).1 then
        match ((cb resp).eval (handler R) ⟨s.syncMapRequested, (R.connected s.robot).2⟩).1 with
        | .ok r => .ok r
        | .error _ => .ok (false, resp)
      else .ok (false, resp) := by
  cases hconn : (R.connected s.robot).1 with
  | false => simp [srvCbWrapperFun, safeGetSlamwarePlatform, rclcppError, hconn]
  | true =>
      cases heval : (cb resp).eval (handler R)
          ⟨s.syncMapRequested, (R.connected s.robot).2⟩ with
      | mk r s' =>
          cases r <;> simp [srvCbWrapperFun, safeGetSlamwarePlatform, rclcppError, hconn, heval]

theorem not_runs_of_error {R : Robot M P ρ} {done rest : List (PlatformCall M P)}
    {c : PlatformCall M P} {e : Exception} {s : ρ}
    (h : (R.call c (R.after done s)).1 = .error e) : ¬R.Runs (done ++ c :: rest) s := by
  induction done generalizing s with
  | nil =>
      rintro ⟨hok, -⟩
      have hcall : (R.call c s).1 = .error e := h
      rw [hcall] at hok
      exact Bool.false_ne_true hok
  | cons c' done ih => exact fun hruns => ih h hruns.2

theorem eval_srvCbSyncGetStcm (resp : SyncGetStcm.Response) (s : State ρ) :
    (∃ bytes, SavesMap R format s.robot bytes ∧
      ((srvCbSyncGetStcm format resp).eval (handler R) s).1 = .ok (true, ⟨bytes⟩)) ∨
    (∀ bytes, ¬SavesMap R format s.robot bytes) ∧
      (((srvCbSyncGetStcm format resp).eval (handler R) s).1 = .ok (false, resp) ∨
        ∃ e, ((srvCbSyncGetStcm format resp).eval (handler R) s).1 = .error e) := by
  cases hbuffer : (R.allocate (1024 * 1024 * 8) s.robot).1 with
  | error e =>
      refine Or.inr ⟨fun bytes => ?_, Or.inr ⟨e, ?_⟩⟩
      · simp [SavesMap, hbuffer, Except.isOk, Except.toBool]
      · simp [srvCbSyncGetStcm, hbuffer]
  | ok u =>
      generalize hrobot : (R.allocate (1024 * 1024 * 8) s.robot).2 = robot
      cases hmap : (R.getCompositeMap robot).1 with
      | error e =>
          refine Or.inr ⟨fun bytes => by simp [SavesMap, hrobot, hmap], ?_⟩
          cases hstd : e.1.isStd <;>
            simp [srvCbSyncGetStcm, hbuffer, hrobot, hmap, hstd, rclcppWarn]
      | ok map =>
          cases hsave : format.saveStream map with
          | none =>
              refine Or.inr ⟨fun bytes => by simp [SavesMap, hrobot, hmap, hsave], Or.inl ?_⟩
              simp [srvCbSyncGetStcm, hbuffer, hrobot, hmap, hsave, rclcppError]
          | some bytes =>
              cases hresize : (R.allocate bytes.length (R.getCompositeMap robot).2).1 with
              | error e =>
                  refine Or.inr ⟨fun bytes' => ?_, Or.inr ⟨e, ?_⟩⟩
                  · simp only [SavesMap, hrobot, hmap]
                    rintro ⟨-, map', hmap', hsave', hok⟩
                    cases hmap'
                    cases hsave.symm.trans hsave'
                    simp [hresize, Except.isOk, Except.toBool] at hok
                  · simp [srvCbSyncGetStcm, hbuffer, hrobot, hmap, hsave, hresize]
              | ok u =>
                  refine Or.inl ⟨bytes, ⟨by rw [hbuffer]; rfl, ?_⟩, ?_⟩
                  · rw [hrobot]
                    exact ⟨map, hmap, hsave, by rw [hresize]; rfl⟩
                  · simp [srvCbSyncGetStcm, hbuffer, hrobot, hmap, hsave, hresize]

/-- `srvCbSyncGetStcm_` returns `true` exactly when the map can be read, and then
puts its bytes into the response. -/
theorem srvCbSyncGetStcm_returns (resp : SyncGetStcm.Response) (s : State ρ) :
    (∃ bytes, Downloads R format s.robot bytes ∧
      ((srvCbWrapperFun (srvCbSyncGetStcm format) resp).eval (handler R) s).1 =
        .ok (true, ⟨bytes⟩)) ∨
    (∀ bytes, ¬Downloads R format s.robot bytes) ∧
      ((srvCbWrapperFun (srvCbSyncGetStcm format) resp).eval (handler R) s).1 =
        .ok (false, resp) := by
  rw [eval_srvCbWrapperFun]
  cases hconn : (R.connected s.robot).1 with
  | false => exact Or.inr ⟨fun bytes h => Bool.false_ne_true (hconn.symm.trans h.1), rfl⟩
  | true =>
      rcases eval_srvCbSyncGetStcm R format resp
          ⟨s.syncMapRequested, (R.connected s.robot).2⟩ with
        ⟨bytes, hsaves, heval⟩ | ⟨hnot, heval⟩
      · exact Or.inl ⟨bytes, ⟨hconn, hsaves⟩, by simp [heval]⟩
      · refine Or.inr ⟨fun bytes h => hnot bytes h.2, ?_⟩
        rcases heval with heval | ⟨e, heval⟩ <;> simp [heval]

/-- `srvCbSyncSetStcm_` returns `true` exactly when the map can be set. -/
theorem srvCbSyncSetStcm_returns (rosMsgToSltc : RosPose → P) (req : SyncSetStcm.Request RosPose)
    (resp : SyncSetStcm.Response) (s : State ρ) :
    ∃ b, ((srvCbWrapperFun (srvCbSyncSetStcm format rosMsgToSltc req) resp).eval
        (handler R) s).1 = .ok (b, resp) ∧
      (b = true ↔ Uploads R format s.robot req.rawStcm (rosMsgToSltc req.robotPose)) := by
  rw [eval_srvCbWrapperFun]
  cases hconn : (R.connected s.robot).1 with
  | false =>
      refine ⟨false, rfl, ?_⟩
      simp [Uploads, hconn]
  | true =>
      rcases eval_srvCbSyncSetStcm R format rosMsgToSltc req resp
          ⟨s.syncMapRequested, (R.connected s.robot).2⟩ with
        ⟨hload, heval⟩ | ⟨map, hload, ⟨hruns, heval⟩ | ⟨done, c, rest, e, hcs, -, herror, heval⟩⟩
      · refine ⟨false, by rw [heval]; rfl, ?_⟩
        simp [Uploads, hload]
      · refine ⟨true, by rw [heval]; rfl, iff_of_true rfl ⟨hconn, map, hload, hruns⟩⟩
      · refine ⟨false, by rw [heval]; cases e.1.isStd <;> rfl,
          iff_of_false Bool.false_ne_true ?_⟩
        rintro ⟨-, map', hload', hruns⟩
        have hmap : map = map' := Option.some.inj (hload.symm.trans hload')
        subst hmap
        rw [hcs] at hruns
        exact not_runs_of_error herror hruns

end Server

/-! ## What the client makes of it -/

/-- The bytes the client gets to read from a file. -/
def Files.contents (F : Files φ) (filePath : String) (files : φ) : Option (List UInt8) :=
  let (isOpen, files) := F.openIfstream filePath files
  if !isOpen then none
  else
    match F.tellg files with
    | (none, _) => none
    | (some szDat, files) =>
        match F.resize szDat files with
        | (.error _, _) => none
        | (.ok (), files) =>
            let (bytes, _) := F.read szDat files
            if bytes.length = szDat then some bytes else none

/-- The client can open the file and write the bytes. -/
def Files.stores (F : Files φ) (filePath : String) (bytes : List UInt8) (files : φ) : Bool :=
  let (isOpen, files) := F.openOfstream filePath files
  isOpen && !(F.write bytes files).1

section Client

variable (R : Robot M P ρ) (format : StcmFormat M) (rosMsgToSltc : RosPose → P) (F : Files φ)

theorem advertiseService_eq {R : Robot M P ρ} {Resp : Type} {resp : Resp} {b : Bool}
    {cb : ServerM M P (Bool × Resp)} {w : World ρ φ} (noResp : Resp)
    (h : (cb.eval (handler R) w.server).1 = .ok (b, resp)) :
    ∃ s, advertiseService R noResp cb w =
      ((.success, resp), ⟨s, w.files, w.returned ++ [b]⟩) := by
  unfold advertiseService
  cases heval : cb.eval (handler R) w.server with
  | mk r s =>
      rw [heval] at h
      cases h
      exact ⟨s, rfl⟩

/-- The client reports success whatever the callback returns. -/
theorem eval_syncSetStcm (srvMsg : SyncSetStcm.Request RosPose) (w : World ρ φ) :
    ∃ b s, (syncSetStcm srvMsg).eval (clientHandler R format rosMsgToSltc F) w =
        (.ok true, ⟨s, w.files, w.returned ++ [b]⟩) ∧
      (b = true ↔
        Uploads R format w.server.robot srvMsg.rawStcm (rosMsgToSltc srvMsg.robotPose)) := by
  obtain ⟨b, heval, hb⟩ := srvCbSyncSetStcm_returns R format rosMsgToSltc srvMsg {} w.server
  obtain ⟨s, hserve⟩ := advertiseService_eq {} heval
  exact ⟨b, s, by simp [syncSetStcm, callSyncSetStcm, hserve], hb⟩

theorem eval_syncGetStcm (srvMsgResp : SyncGetStcm.Response) (w : World ρ φ) :
    ∃ b resp s, (syncGetStcm srvMsgResp).eval (clientHandler R format rosMsgToSltc F) w =
        (.ok (true, resp), ⟨s, w.files, w.returned ++ [b]⟩) ∧
      (b = true ∧ Downloads R format w.server.robot resp.rawStcm ∨
        b = false ∧ resp.rawStcm = [] ∧ ∀ bytes, ¬Downloads R format w.server.robot bytes) := by
  rcases srvCbSyncGetStcm_returns R format {} w.server with ⟨bytes, hdown, heval⟩ | ⟨hnot, heval⟩
  · obtain ⟨s, hserve⟩ := advertiseService_eq {} heval
    exact ⟨true, ⟨bytes⟩, s, by simp [syncGetStcm, callSyncGetStcm, hserve], Or.inl ⟨rfl, hdown⟩⟩
  · obtain ⟨s, hserve⟩ := advertiseService_eq {} heval
    exact ⟨false, ⟨[]⟩, s, by simp [syncGetStcm, callSyncGetStcm, hserve],
      Or.inr ⟨rfl, rfl, hnot⟩⟩

/-- With a file that cannot be read no request is sent. -/
theorem eval_syncSetStcmFile (filePath : String) (robotPose : RosPose) (w : World ρ φ) :
    let run := (syncSetStcmFile filePath robotPose).eval (clientHandler R format rosMsgToSltc F) w
    match F.contents filePath w.files with
    | none => ∀ errMsg, run.1 ≠ .ok (true, errMsg)
    | some bytes => ∃ b, run.1 = .ok (true, "") ∧ run.2.returned = w.returned ++ [b] ∧
        (b = true ↔ Uploads R format w.server.robot bytes (rosMsgToSltc robotPose)) := by
  intro run
  cases hopen : F.openIfstream filePath w.files with
  | mk isOpen files₁ =>
  cases isOpen with
  | false => simp [run, syncSetStcmFile, openIfstream, Files.contents, hopen]
  | true =>
  cases htellg : F.tellg files₁ with
  | mk size files₂ =>
  cases size with
  | none => simp [run, syncSetStcmFile, openIfstream, tellg, Files.contents, hopen, htellg]
  | some szDat =>
  cases hresize : F.resize szDat files₂ with
  | mk resized files₃ =>
  cases resized with
  | error e =>
      simp [run, syncSetStcmFile, openIfstream, tellg, resize, Files.contents, hopen, htellg,
        hresize]
  | ok u =>
  cases hread : F.read szDat files₃ with
  | mk bytes files₄ =>
  by_cases hlen : bytes.length = szDat
  · obtain ⟨b, s, heval, hb⟩ := eval_syncSetStcm R format rosMsgToSltc F ⟨bytes, robotPose⟩
      { w with files := files₄ }
    have hcontents : F.contents filePath w.files = some bytes := by
      simp [Files.contents, hopen, htellg, hresize, hread, hlen]
    rw [hcontents]
    refine ⟨b, ?_, ?_, hb⟩ <;>
      simp [run, syncSetStcmFile, openIfstream, tellg, resize, read, hopen, htellg, hresize,
        hread, hlen, heval]
  · simp [run, syncSetStcmFile, openIfstream, tellg, resize, read, Files.contents, hopen, htellg,
      hresize, hread, hlen]

theorem eval_syncGetStcmFile (filePath : String) (w : World ρ φ) :
    let run := (syncGetStcmFile filePath).eval (clientHandler R format rosMsgToSltc F) w
    ∃ b bytes, run.2.returned = w.returned ++ [b] ∧
      ((∃ errMsg, run.1 = .ok (true, errMsg)) ↔ F.stores filePath bytes w.files = true) ∧
      (b = true ∧ Downloads R format w.server.robot bytes ∨
        b = false ∧ bytes = [] ∧ ∀ bytes, ¬Downloads R format w.server.robot bytes) := by
  intro run
  obtain ⟨b, resp, s, heval, hb⟩ := eval_syncGetStcm R format rosMsgToSltc F {} w
  refine ⟨b, resp.rawStcm, ?_⟩
  cases hopen : F.openOfstream filePath w.files with
  | mk isOpen files₁ =>
  cases isOpen with
  | false => simp [run, syncGetStcmFile, openOfstream, Files.stores, hopen, heval, hb]
  | true =>
  cases hwrite : F.write resp.rawStcm files₁ with
  | mk fail files₂ =>
  cases fail <;>
    simp [run, syncGetStcmFile, openOfstream, write, Files.stores, hopen, hwrite, heval, hb]

/-! ## Agreement -/

/-- If the client reports success, the callback of its request has returned `true`. -/
def Agrees {α : Type} (success : α → Bool) (w : World ρ φ)
    (run : Except Exception α × World ρ φ) : Prop :=
  ∀ a, run.1 = .ok a → success a = true → run.2.returned = w.returned ++ [true]

theorem syncSetStcm_agrees_iff (srvMsg : SyncSetStcm.Request RosPose) (w : World ρ φ) :
    Agrees id w ((syncSetStcm srvMsg).eval (clientHandler R format rosMsgToSltc F) w) ↔
      Uploads R format w.server.robot srvMsg.rawStcm (rosMsgToSltc srvMsg.robotPose) := by
  obtain ⟨b, s, heval, hb⟩ := eval_syncSetStcm R format rosMsgToSltc F srvMsg w
  rw [heval, ← hb]
  cases b <;> simp [Agrees]

theorem syncSetStcmFile_agrees_iff (filePath : String) (robotPose : RosPose) (w : World ρ φ) :
    Agrees Prod.fst w
        ((syncSetStcmFile filePath robotPose).eval (clientHandler R format rosMsgToSltc F) w) ↔
      ∀ bytes, F.contents filePath w.files = some bytes →
        Uploads R format w.server.robot bytes (rosMsgToSltc robotPose) := by
  have hspec := eval_syncSetStcmFile R format rosMsgToSltc F filePath robotPose w
  cases hcontents : F.contents filePath w.files with
  | none =>
      simp only [hcontents] at hspec
      refine iff_of_true ?_ nofun
      rintro ⟨called, errMsg⟩ hrun rfl
      exact absurd hrun (hspec errMsg)
  | some bytes =>
      simp only [hcontents] at hspec
      obtain ⟨b, hrun, hreturned, hb⟩ := hspec
      simp only [Agrees, hrun, hreturned, Option.some.injEq, forall_eq', ← hb]
      cases b <;> simp

theorem syncGetStcm_agrees_iff (srvMsgResp : SyncGetStcm.Response) (w : World ρ φ) :
    let run := (syncGetStcm srvMsgResp).eval (clientHandler R format rosMsgToSltc F) w
    (Agrees Prod.fst w run ∧
        ∀ a, run.1 = .ok a → a.1 = true → Downloads R format w.server.robot a.2.rawStcm) ↔
      ∃ bytes, Downloads R format w.server.robot bytes := by
  intro run
  obtain ⟨b, resp, s, heval, hb⟩ := eval_syncGetStcm R format rosMsgToSltc F srvMsgResp w
  simp only [run, heval, Agrees]
  rcases hb with ⟨rfl, hdown⟩ | ⟨rfl, -, hnot⟩
  · refine iff_of_true ⟨fun _ _ _ => rfl, ?_⟩ ⟨_, hdown⟩
    rintro a ⟨⟩ -
    exact hdown
  · exact iff_of_false (fun h => hnot _ (h.2 _ rfl rfl)) fun ⟨bytes, h⟩ => hnot bytes h

theorem syncGetStcmFile_agrees_iff (filePath : String) (w : World ρ φ) :
    Agrees Prod.fst w
        ((syncGetStcmFile filePath).eval (clientHandler R format rosMsgToSltc F) w) ↔
      (F.stores filePath [] w.files = true → ∃ bytes, Downloads R format w.server.robot bytes) := by
  obtain ⟨b, bytes, hreturned, hstores, hb⟩ :=
    eval_syncGetStcmFile R format rosMsgToSltc F filePath w
  simp only [Agrees, hreturned]
  rcases hb with ⟨rfl, hdown⟩ | ⟨rfl, rfl, hnot⟩
  · exact iff_of_true (fun _ _ _ => rfl) fun _ => ⟨bytes, hdown⟩
  · rw [← hstores]
    constructor
    · rintro hagrees ⟨errMsg, hrun⟩
      simpa using hagrees _ hrun rfl
    · rintro hdown ⟨called, errMsg⟩ hrun rfl
      obtain ⟨bytes, h⟩ := hdown ⟨errMsg, hrun⟩
      exact absurd h (hnot bytes)

/-- Client and server agree on a transfer exactly when it works on the server, or
when the client fails over its own file. -/
theorem transfer_agrees_iff (w : World ρ φ) :
    (∀ srvMsg, Agrees id w ((syncSetStcm srvMsg).eval (clientHandler R format rosMsgToSltc F) w) ↔
      Uploads R format w.server.robot srvMsg.rawStcm (rosMsgToSltc srvMsg.robotPose)) ∧
    (∀ filePath robotPose, Agrees Prod.fst w
        ((syncSetStcmFile filePath robotPose).eval (clientHandler R format rosMsgToSltc F) w) ↔
      ∀ bytes, F.contents filePath w.files = some bytes →
        Uploads R format w.server.robot bytes (rosMsgToSltc robotPose)) ∧
    (∀ srvMsgResp,
      let run := (syncGetStcm srvMsgResp).eval (clientHandler R format rosMsgToSltc F) w
      (Agrees Prod.fst w run ∧
          ∀ a, run.1 = .ok a → a.1 = true → Downloads R format w.server.robot a.2.rawStcm) ↔
        ∃ bytes, Downloads R format w.server.robot bytes) ∧
    ∀ filePath, Agrees Prod.fst w
        ((syncGetStcmFile filePath).eval (clientHandler R format rosMsgToSltc F) w) ↔
      (F.stores filePath [] w.files = true →
        ∃ bytes, Downloads R format w.server.robot bytes) :=
  ⟨fun srvMsg => syncSetStcm_agrees_iff R format rosMsgToSltc F srvMsg w,
    fun filePath robotPose =>
      syncSetStcmFile_agrees_iff R format rosMsgToSltc F filePath robotPose w,
    fun srvMsgResp => syncGetStcm_agrees_iff R format rosMsgToSltc F srvMsgResp w,
    fun filePath => syncGetStcmFile_agrees_iff R format rosMsgToSltc F filePath w⟩

end Client

/-- A client that can open no file. -/
def noFiles : Files Unit where
  openIfstream _ _ := (false, ())
  tellg _ := (none, ())
  resize _ _ := (.ok (), ())
  read _ _ := ([], ())
  openOfstream _ _ := (false, ())
  write _ _ := (true, ())

/-- The upload fails on the platform, and the client reports success. -/
theorem failed_upload_reported :
    ¬∀ (M P RosPose ρ φ : Type) (R : Robot M P ρ) (format : StcmFormat M)
      (rosMsgToSltc : RosPose → P) (F : Files φ) (srvMsg : SyncSetStcm.Request RosPose)
      (w : World ρ φ),
      Agrees id w ((syncSetStcm srvMsg).eval (clientHandler R format rosMsgToSltc F) w) := by
  intro hholds
  have hagrees := hholds UInt8 Unit Unit (Settings UInt8) Unit
    (robotFailingAt (.setCompositeMap 7 ())) oneByte id noFiles ⟨[7], ()⟩
    ⟨⟨some false, ⟨3, true, true⟩⟩, (), []⟩ true rfl rfl
  exact absurd hagrees (by decide)

end Model

end Ros2WsDemo.Stcm

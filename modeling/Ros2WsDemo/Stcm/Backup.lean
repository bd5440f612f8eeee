import Mathlib.Logic.Function.Basic
import Ros2WsDemo.Stcm.Agreement

/-!
# Maps that come back

A client saves the robot's map in a file and sets it again later.  What the robot
gets is the map it had, whatever has happened in between, if both callbacks have
returned `true`; the client hears of success in any case.  A file that is
reported as saved without that is empty, and setting it does nothing.
-/

namespace Ros2WsDemo.Stcm

open Effect

variable {M P RosPose ρ φ κ : Type}

/-! ## What is relied on -/

/-- The robot hands out the map it has, and has the map it was given; no other
call than clearing and setting changes it. -/
structure Robot.KeepsMap (R : Robot M P ρ) extends R.HasSettings where
  connected_map : ∀ s, (settings (R.connected s).2).map = (settings s).map
  allocate_map : ∀ size s, (settings (R.allocate size s).2).map = (settings s).map
  getCompositeMap_map : ∀ s, (settings (R.getCompositeMap s).2).map = (settings s).map
  getCompositeMap_ok : ∀ s map, (R.getCompositeMap s).1 = .ok map → map = (settings s).map
  setCompositeMap_ok : ∀ map robotPose s, (R.call (.setCompositeMap map robotPose) s).1.isOk →
    (settings (R.call (.setCompositeMap map robotPose) s).2).map = map

/-- Files by what they hold.  Several paths may name one file, and any operation
may fail; `current` is the file opened last. -/
structure Files.IsDisk (F : Files φ) (κ : Type) where
  file : String → κ
  content : φ → κ → List UInt8
  current : φ → κ
  openIfstream_content : ∀ filePath s, content (F.openIfstream filePath s).2 = content s
  openIfstream_current : ∀ filePath s, (F.openIfstream filePath s).1 = true →
    current (F.openIfstream filePath s).2 = file filePath
  tellg_content : ∀ s, content (F.tellg s).2 = content s
  tellg_current : ∀ s, current (F.tellg s).2 = current s
  tellg_length : ∀ s size, (F.tellg s).1 = some size → size = (content s (current s)).length
  resize_content : ∀ size s, content (F.resize size s).2 = content s
  resize_current : ∀ size s, current (F.resize size s).2 = current s
  read_content : ∀ size s, content (F.read size s).2 = content s
  read_prefix : ∀ size s, (F.read size s).1 <+: content s (current s)
  openOfstream_current : ∀ filePath s, (F.openOfstream filePath s).1 = true →
    current (F.openOfstream filePath s).2 = file filePath
  openOfstream_trunc : ∀ filePath s, (F.openOfstream filePath s).1 = true →
    content (F.openOfstream filePath s).2 (file filePath) = []
  openOfstream_frame : ∀ filePath s k, k ≠ file filePath →
    content (F.openOfstream filePath s).2 k = content s k
  write_append : ∀ bytes s, (F.write bytes s).1 = false →
    content (F.write bytes s).2 (current s) = content s (current s) ++ bytes
  write_frame : ∀ bytes s k, k ≠ current s → content (F.write bytes s).2 k = content s k

/-- What was written can be read, and an empty file is no map. -/
structure StcmFormat.Lossless (format : StcmFormat M) : Prop where
  loadStream_saveStream : ∀ map bytes, format.saveStream map = some bytes →
    format.loadStream bytes = some map
  loadStream_nil : format.loadStream [] = none

/-! ## The robot's map -/

namespace Robot.KeepsMap

variable {R : Robot M P ρ} (K : R.KeepsMap)

def map (s : ρ) : M := (K.settings s).map

theorem map_call {c : PlatformCall M P} (hclear : c ≠ .clearMap)
    (hset : ∀ map robotPose, c ≠ .setCompositeMap map robotPose) (s : ρ) :
    K.map (R.call c s).2 = K.map s := by
  rcases K.call_settings c s with hnone | heffect
  · exact congrArg Settings.map hnone
  · rw [map, heffect]
    cases c with
    | clearMap => exact absurd rfl hclear
    | setCompositeMap map robotPose => exact absurd rfl (hset map robotPose)
    | getCurrentAction => rfl
    | cancel => rfl
    | setMapLocalization localization => rfl
    | setMapUpdate update => rfl

theorem runs_append {cs ds : List (PlatformCall M P)} {s : ρ} (h : R.Runs (cs ++ ds) s) :
    R.Runs ds (R.after cs s) := by
  induction cs generalizing s with
  | nil => exact h
  | cons c cs ih => exact ih h.2

/-- Enabling localization again is all that follows on setting the map. -/
theorem map_after_upload {tAct : Bool} {map : M} {robotPose : P} {s : ρ}
    (h : R.Runs (uploadCalls tAct map robotPose) s) :
    K.map (R.after (uploadCalls tAct map robotPose) s) = map := by
  let before : List (PlatformCall M P) :=
    [.clearMap, .getCurrentAction] ++ (if tAct then [.cancel] else []) ++
      [.setMapLocalization false, .setMapUpdate false]
  have hsplit : uploadCalls tAct map robotPose =
      before ++ [.setCompositeMap map robotPose, .setMapLocalization true] := by
    simp [uploadCalls, before]
  rw [hsplit] at h ⊢
  obtain ⟨hset, -⟩ := runs_append h
  let s' := (R.call (.setCompositeMap map robotPose) (R.after before s)).2
  calc K.map (R.after (before ++ [.setCompositeMap map robotPose, .setMapLocalization true]) s)
      = K.map (R.call (.setMapLocalization true) s').2 := by
        rw [Robot.after, List.foldl_append]
        rfl
    _ = K.map s' := K.map_call (c := .setMapLocalization true) (by simp) (by simp) s'
    _ = map := K.setCompositeMap_ok map robotPose _ hset

end Robot.KeepsMap

/-! ### Handing it out -/

/-- The operations that take part in handing out the map. -/
def Op.Reads : Op M P → Prop
  | .platform _ => False
  | _ => True

theorem Robot.KeepsMap.map_handler {R : Robot M P ρ} (K : R.KeepsMap) {o : Op M P} (h : o.Reads)
    (s : State ρ) : K.map (handler R o s).2.robot = K.map s.robot := by
  cases o with
  | safeGetSlamwarePlatform => exact K.connected_map s.robot
  | platform call => exact h.elim
  | getCompositeMap => exact K.getCompositeMap_map s.robot
  | allocate size => exact K.allocate_map size s.robot
  | requestSyncMap => rfl
  | rclcppError format => rfl
  | rclcppWarn format => rfl

theorem uses_allocate (size : ℕ) : (allocate size : ServerM M P Unit).Uses Op.Reads :=
  Prog.Uses.bind (Prog.uses_perform (o := Op.allocate size) trivial) Prog.uses_ofExcept

theorem uses_getCompositeMap : (getCompositeMap : ServerM M P M).Uses Op.Reads :=
  Prog.Uses.bind (Prog.uses_perform (o := Op.getCompositeMap) trivial) Prog.uses_ofExcept

theorem uses_srvCbSyncGetStcm (format : StcmFormat M) (resp : SyncGetStcm.Response) :
    (srvCbSyncGetStcm format resp : ServerM M P _).Uses Op.Reads := by
  refine Prog.Uses.bind (uses_allocate _) fun _ => Prog.Uses.bind ?_ fun saved => ?_
  · refine Prog.Uses.tryCatch (Prog.Uses.bind uses_getCompositeMap fun map => ?_) fun e => ?_
    · cases format.saveStream map with
      | none => exact Prog.Uses.bind (Prog.uses_perform trivial) fun _ => trivial
      | some bytes => trivial
    · cases e.1.isStd with
      | false => trivial
      | true => exact Prog.Uses.bind (Prog.uses_perform trivial) fun _ => trivial
  · cases saved with
    | none => trivial
    | some bytes => exact Prog.Uses.bind (uses_allocate _) fun _ => trivial

theorem uses_srvCbWrapperFun {Resp : Type} {cb : Resp → ServerM M P (Bool × Resp)} {resp : Resp}
    (hcb : (cb resp).Uses Op.Reads) : (srvCbWrapperFun cb resp).Uses Op.Reads := by
  refine Prog.Uses.bind (Prog.uses_perform (o := Op.safeGetSlamwarePlatform) trivial)
    fun (pltfm : Bool) => ?_
  cases pltfm with
  | false => exact Prog.Uses.bind (Prog.uses_perform trivial) fun _ => trivial
  | true =>
      exact Prog.Uses.tryCatch hcb fun e =>
        Prog.Uses.bind (Prog.uses_perform trivial) fun _ => trivial

/-! ## Files -/

namespace Files.IsDisk

variable {F : Files φ} (D : F.IsDisk κ)

theorem contents_eq {filePath : String} {files : φ} {bytes : List UInt8}
    (h : F.contents filePath files = some bytes) :
    D.content files (D.file filePath) = bytes := by
  simp only [Files.contents] at h
  cases hopen : F.openIfstream filePath files with
  | mk isOpen files₁ =>
  cases isOpen with
  | false => simp [hopen] at h
  | true =>
  cases htellg : F.tellg files₁ with
  | mk size files₂ =>
  cases size with
  | none => simp [hopen, htellg] at h
  | some szDat =>
  cases hresize : F.resize szDat files₂ with
  | mk resized files₃ =>
  cases resized with
  | error e => simp [hopen, htellg, hresize] at h
  | ok u =>
  simp only [hopen, htellg, hresize, Bool.not_true, Bool.false_eq_true, if_false] at h
  split_ifs at h with hlen
  have hopened := D.openIfstream_content filePath files
  have hcurrent := D.openIfstream_current filePath files
  have hsize := D.tellg_length files₁ szDat
  have htold := D.tellg_content files₁
  have htoldCurrent := D.tellg_current files₁
  have hresized := D.resize_content szDat files₂
  have hresizedCurrent := D.resize_current szDat files₂
  rw [hopen] at hopened hcurrent
  rw [htellg] at hsize htold htoldCurrent
  rw [hresize] at hresized hresizedCurrent
  dsimp only at hopened hcurrent hsize htold htoldCurrent hresized hresizedCurrent
  have hread := D.read_prefix szDat files₃
  rw [hresized, htold, hresizedCurrent, htoldCurrent] at hread
  have hfull := hread.eq_of_length (hlen.trans (hsize rfl))
  rw [hopened, hcurrent rfl] at hfull
  exact hfull.symm.trans (Option.some.inj h)

/-- Writing a file anew. -/
theorem content_write {filePath : String} {files : φ} (bytes : List UInt8)
    (h : F.stores filePath bytes files = true) :
    D.content (F.write bytes (F.openOfstream filePath files).2).2 (D.file filePath) = bytes := by
  simp only [Files.stores, Bool.and_eq_true, Bool.not_eq_true'] at h
  obtain ⟨hopen, hwrite⟩ := h
  have hcurrent := D.openOfstream_current filePath files hopen
  calc D.content (F.write bytes (F.openOfstream filePath files).2).2 (D.file filePath)
      = D.content (F.openOfstream filePath files).2 (D.file filePath) ++ bytes := by
        rw [← hcurrent]
        exact D.write_append bytes _ hwrite
    _ = [] ++ bytes := by rw [D.openOfstream_trunc filePath files hopen]
    _ = bytes := List.nil_append bytes

theorem content_write_of_ne {filePath : String} {files : φ} (bytes : List UInt8)
    (hopen : (F.openOfstream filePath files).1 = true) {k : κ} (hk : k ≠ D.file filePath) :
    D.content (F.write bytes (F.openOfstream filePath files).2).2 k = D.content files k := by
  rw [D.write_frame bytes _ k (by rwa [D.openOfstream_current filePath files hopen])]
  exact D.openOfstream_frame filePath files k hk

end Files.IsDisk

/-! ## Saving and setting -/

section Client

variable {R : Robot M P ρ} (K : R.KeepsMap) {F : Files φ} (D : F.IsDisk κ)
  (format : StcmFormat M) (rosMsgToSltc : RosPose → P)

theorem advertiseService_server {Resp : Type} (noResp : Resp) (cb : ServerM M P (Bool × Resp))
    (w : World ρ φ) :
    (advertiseService R noResp cb w).2.server = (cb.eval (handler R) w.server).2 := by
  unfold advertiseService
  cases cb.eval (handler R) w.server with
  | mk r s => cases r <;> rfl

/-- Saving the map leaves it as it is. -/
theorem map_syncGetStcm (srvMsgResp : SyncGetStcm.Response) (w : World ρ φ) :
    K.map ((syncGetStcm srvMsgResp).eval (clientHandler R format rosMsgToSltc F) w).2.server.robot =
      K.map w.server.robot := by
  have huses : (syncGetStcm srvMsgResp : ClientM RosPose _).Uses
      (· = ClientOp.callSyncGetStcm) := by
    refine Prog.Uses.bind (Prog.uses_perform rfl) fun result => ?_
    split
    · trivial
    · trivial
  refine huses.eval_snd
    (I := fun w' : World ρ φ => K.map w'.server.robot = K.map w.server.robot) ?_ rfl
  rintro o rfl w' hw'
  rw [← hw', clientHandler, advertiseService_server]
  exact (uses_srvCbWrapperFun (uses_srvCbSyncGetStcm format {})).eval_snd
    (I := fun s => K.map s.robot = K.map w'.server.robot)
    (fun o ho s hs => (K.map_handler ho s).trans hs) rfl

theorem Downloads.saveStream {R : Robot M P ρ} {format : StcmFormat M} {s : ρ}
    {bytes : List UInt8} (K : R.KeepsMap) (h : Downloads R format s bytes) :
    format.saveStream (K.map s) = some bytes := by
  obtain ⟨-, -, map, hmap, hsave, -⟩ := h
  have heq : map = K.map s :=
    calc map = K.map (R.allocate (1024 * 1024 * 8) (R.connected s).2).2 :=
          K.getCompositeMap_ok _ map hmap
      _ = K.map (R.connected s).2 := K.allocate_map _ _
      _ = K.map s := K.connected_map s
  exact heq ▸ hsave

theorem eval_backup (filePath : String) (w : World ρ φ) :
    let run := (syncGetStcmFile filePath).eval (clientHandler R format rosMsgToSltc F) w
    K.map run.2.server.robot = K.map w.server.robot ∧
    (∀ k ≠ D.file filePath, D.content run.2.files k = D.content w.files k) ∧
    ∃ b bytes, run.2.returned = w.returned ++ [b] ∧
      (b = true → format.saveStream (K.map w.server.robot) = some bytes) ∧
      (b = false → bytes = []) ∧
      ∀ errMsg, run.1 = .ok (true, errMsg) → D.content run.2.files (D.file filePath) = bytes := by
  intro run
  have hmap := map_syncGetStcm K (F := F) format rosMsgToSltc {} w
  obtain ⟨b, resp, s, heval, hb⟩ := eval_syncGetStcm R format rosMsgToSltc F {} w
  rw [heval] at hmap
  have hbytes : (b = true → format.saveStream (K.map w.server.robot) = some resp.rawStcm) ∧
      (b = false → resp.rawStcm = []) := by
    rcases hb with ⟨rfl, hdown⟩ | ⟨rfl, hempty, -⟩
    · exact ⟨fun _ => hdown.saveStream K, by simp⟩
    · exact ⟨by simp, fun _ => hempty⟩
  cases hopen : (F.openOfstream filePath w.files).1 with
  | false =>
      have hrun : run = (.ok (false, "failed to open file."),
          ⟨s, (F.openOfstream filePath w.files).2, w.returned ++ [b]⟩) := by
        simp [run, syncGetStcmFile, openOfstream, hopen, heval]
      rw [hrun]
      exact ⟨hmap, D.openOfstream_frame filePath w.files, b, resp.rawStcm, rfl, hbytes.1, hbytes.2,
        by simp⟩
  | true =>
      have hfiles : run.2 = ⟨s, (F.write resp.rawStcm (F.openOfstream filePath w.files).2).2,
          w.returned ++ [b]⟩ := by
        cases hwrite : (F.write resp.rawStcm (F.openOfstream filePath w.files).2).1 <;>
          simp [run, syncGetStcmFile, openOfstream, write, hopen, hwrite, heval]
      rw [hfiles]
      refine ⟨hmap, fun k hk => D.content_write_of_ne _ hopen hk, b, resp.rawStcm, rfl, hbytes.1,
        hbytes.2, fun errMsg hrun => D.content_write _ ?_⟩
      cases hwrite : (F.write resp.rawStcm (F.openOfstream filePath w.files).2).1 with
      | false => simp [Files.stores, hopen, hwrite]
      | true => simp [run, syncGetStcmFile, openOfstream, write, hopen, hwrite, heval] at hrun

/-- Where the callback returns `true` the map has been set; where the bytes are
none, nothing has. -/
theorem map_srvCbSyncSetStcm (req : SyncSetStcm.Request RosPose) (resp : SyncSetStcm.Response)
    (s : State ρ) :
    let run := (srvCbWrapperFun (srvCbSyncSetStcm format rosMsgToSltc req) resp).eval (handler R) s
    (run.1 = .ok (true, resp) → format.loadStream req.rawStcm = some (K.map run.2.robot)) ∧
    (format.loadStream req.rawStcm = none →
      run.1 = .ok (false, resp) ∧ K.map run.2.robot = K.map s.robot) := by
  intro run
  cases hconn : (R.connected s.robot).1 with
  | false =>
      have hrun : run = (.ok (false, resp), ⟨s.syncMapRequested, (R.connected s.robot).2⟩) := by
        simp [run, srvCbWrapperFun, safeGetSlamwarePlatform, rclcppError, hconn]
      rw [hrun]
      exact ⟨by simp, fun _ => ⟨rfl, K.connected_map s.robot⟩⟩
  | true =>
      rcases eval_srvCbSyncSetStcm R format rosMsgToSltc req resp
          ⟨s.syncMapRequested, (R.connected s.robot).2⟩ with
        ⟨hload, heval⟩ | ⟨map, hload, ⟨hruns, heval⟩ | ⟨done, c, rest, e, -, -, -, heval⟩⟩
      · have hrun : run = (.ok (false, resp), ⟨s.syncMapRequested, (R.connected s.robot).2⟩) := by
          simp [run, srvCbWrapperFun, safeGetSlamwarePlatform, hconn, heval]
        rw [hrun]
        exact ⟨by simp, fun _ => ⟨rfl, K.connected_map s.robot⟩⟩
      · have hrun : run.2.robot = R.after (uploadCalls (R.hasAction (R.connected s.robot).2) map
            (rosMsgToSltc req.robotPose)) (R.connected s.robot).2 := by
          simp [run, srvCbWrapperFun, safeGetSlamwarePlatform, hconn, heval]
        rw [hrun, K.map_after_upload hruns, hload]
        exact ⟨fun _ => rfl, by simp⟩
      · have hrun : run.1 ≠ .ok (true, resp) := by
          cases hstd : e.1.isStd <;>
            simp [run, srvCbWrapperFun, safeGetSlamwarePlatform, rclcppError, hconn, heval, hstd]
        rw [hload]
        exact ⟨fun h => absurd h hrun, by simp⟩

/-- The operations that leave files as they are. -/
def ClientOp.KeepsFiles : ClientOp RosPose → Prop
  | .openOfstream _ => False
  | .write _ => False
  | _ => True

theorem uses_syncSetStcmFile (filePath : String) (robotPose : RosPose) :
    (syncSetStcmFile filePath robotPose).Uses ClientOp.KeepsFiles := by
  refine Prog.Uses.bind (Prog.uses_perform trivial) fun (isOpen : Bool) => ?_
  cases isOpen with
  | false => trivial
  | true =>
  refine Prog.Uses.bind (Prog.uses_perform (o := ClientOp.tellg) trivial)
    fun (size : Option ℕ) => ?_
  cases size with
  | none => trivial
  | some szDat =>
  refine Prog.Uses.bind (Prog.Uses.bind (Prog.uses_perform (o := ClientOp.resize szDat) trivial)
    Prog.uses_ofExcept) fun _ => Prog.Uses.bind (Prog.uses_perform trivial) fun rawStcm => ?_
  split
  · trivial
  · refine Prog.Uses.bind (Prog.Uses.bind (Prog.uses_perform trivial) fun result => ?_)
      fun (called : Bool) => ?_
    · split
      · trivial
      · trivial
    · cases called with
      | false => trivial
      | true => trivial

theorem content_clientHandler {o : ClientOp RosPose} (h : o.KeepsFiles) (w : World ρ φ) :
    D.content (clientHandler R format rosMsgToSltc F o w).2.files = D.content w.files := by
  cases o with
  | callSyncGetStcm =>
      simp only [clientHandler, advertiseService]
      split
      · rfl
      · rfl
  | callSyncSetStcm req =>
      simp only [clientHandler, advertiseService]
      split
      · rfl
      · rfl
  | openIfstream filePath => exact D.openIfstream_content filePath w.files
  | tellg => exact D.tellg_content w.files
  | resize size => exact D.resize_content size w.files
  | read size => exact D.read_content size w.files
  | openOfstream filePath => exact h.elim
  | write bytes => exact h.elim

/-- A success is that of the request, which carries what could be read. -/
theorem eval_syncSetStcmFile_success {filePath : String} {robotPose : RosPose} {w : World ρ φ}
    {errMsg : String}
    (h : ((syncSetStcmFile filePath robotPose).eval (clientHandler R format rosMsgToSltc F) w).1 =
      .ok (true, errMsg)) :
    ∃ bytes files', F.contents filePath w.files = some bytes ∧
      ((syncSetStcmFile filePath robotPose).eval (clientHandler R format rosMsgToSltc F) w).2 =
        ((syncSetStcm ⟨bytes, robotPose⟩).eval (clientHandler R format rosMsgToSltc F)
          { w with files := files' }).2 := by
  cases hopen : F.openIfstream filePath w.files with
  | mk isOpen files₁ =>
  cases isOpen with
  | false => simp [syncSetStcmFile, openIfstream, hopen] at h
  | true =>
  cases htellg : F.tellg files₁ with
  | mk size files₂ =>
  cases size with
  | none => simp [syncSetStcmFile, openIfstream, tellg, hopen, htellg] at h
  | some szDat =>
  cases hresize : F.resize szDat files₂ with
  | mk resized files₃ =>
  cases resized with
  | error e => simp [syncSetStcmFile, openIfstream, tellg, resize, hopen, htellg, hresize] at h
  | ok u =>
  cases hread : F.read szDat files₃ with
  | mk bytes files₄ =>
  by_cases hlen : bytes.length = szDat
  · refine ⟨bytes, files₄, by simp [Files.contents, hopen, htellg, hresize, hread, hlen], ?_⟩
    obtain ⟨b, s, heval, -⟩ := eval_syncSetStcm R format rosMsgToSltc F ⟨bytes, robotPose⟩
      { w with files := files₄ }
    simp [syncSetStcmFile, openIfstream, tellg, resize, read, hopen, htellg, hresize, hread, hlen,
      heval]
  · simp [syncSetStcmFile, openIfstream, tellg, resize, read, hopen, htellg, hresize, hread,
      hlen] at h

/-- A file's bytes set as the robot's map. -/
theorem eval_restore (filePath : String) (robotPose : RosPose) (w : World ρ φ) :
    let run := (syncSetStcmFile filePath robotPose).eval (clientHandler R format rosMsgToSltc F) w
    D.content run.2.files = D.content w.files ∧
    ∀ errMsg, run.1 = .ok (true, errMsg) → ∃ b, run.2.returned = w.returned ++ [b] ∧
      (b = true → format.loadStream (D.content w.files (D.file filePath)) =
        some (K.map run.2.server.robot)) ∧
      (format.loadStream (D.content w.files (D.file filePath)) = none →
        b = false ∧ K.map run.2.server.robot = K.map w.server.robot) := by
  intro run
  refine ⟨(uses_syncSetStcmFile filePath robotPose).eval_snd
    (I := fun w' : World ρ φ => D.content w'.files = D.content w.files)
    (fun o ho w' hw' => (content_clientHandler D format rosMsgToSltc ho w').trans hw') rfl, ?_⟩
  intro errMsg hsuccess
  obtain ⟨bytes, files', hcontents, hrun⟩ :=
    eval_syncSetStcmFile_success format rosMsgToSltc hsuccess
  obtain ⟨b, hreturns, -⟩ :=
    srvCbSyncSetStcm_returns R format rosMsgToSltc ⟨bytes, robotPose⟩ {} w.server
  have hmap := map_srvCbSyncSetStcm K format rosMsgToSltc ⟨bytes, robotPose⟩ {} w.server
  obtain ⟨s, hserve⟩ := advertiseService_eq (w := { w with files := files' }) {} hreturns
  have hserver := congrArg (fun r => r.2.server) hserve
  rw [advertiseService_server] at hserver
  have hworld : run.2 = ⟨s, files', w.returned ++ [b]⟩ := by
    rw [hrun]
    simp [syncSetStcm, callSyncSetStcm, hserve]
  rw [hworld, D.contents_eq hcontents]
  dsimp only at hserver hmap
  rw [hreturns, hserver] at hmap
  refine ⟨b, rfl, ?_, fun hload => ⟨?_, (hmap.2 hload).2⟩⟩
  · rintro rfl
    exact hmap.1 rfl
  · cases (hmap.2 hload).1
    rfl

/-! ## In between -/

variable (R F)

/-- A client saves the map or sets one, or something else happens to the robot and
the files. -/
inductive Command (RosPose ρ φ : Type) where
  | backup (filePath : String)
  | restore (filePath : String) (robotPose : RosPose)
  | elsewhere (step : World ρ φ → World ρ φ)

def Command.execute : Command RosPose ρ φ → World ρ φ → World ρ φ
  | .backup filePath, w =>
      ((syncGetStcmFile filePath).eval (clientHandler R format rosMsgToSltc F) w).2
  | .restore filePath robotPose, w =>
      ((syncSetStcmFile filePath robotPose).eval (clientHandler R format rosMsgToSltc F) w).2
  | .elsewhere step, w => step w

def Command.executeAll (cs : List (Command RosPose ρ φ)) (w : World ρ φ) : World ρ φ :=
  cs.foldl (fun w c => c.execute R F format rosMsgToSltc w) w

variable {R F}

/-- The file is not written. -/
def Command.Leaves (k : κ) : Command RosPose ρ φ → Prop
  | .backup filePath => k ≠ D.file filePath
  | .restore _ _ => True
  | .elsewhere step => ∀ w : World ρ φ, D.content (step w).files k = D.content w.files k

include K in
theorem Command.content_execute {k : κ} {c : Command RosPose ρ φ} (h : c.Leaves D k)
    (w : World ρ φ) :
    D.content (c.execute R F format rosMsgToSltc w).files k = D.content w.files k := by
  cases c with
  | backup filePath => exact (eval_backup K D format rosMsgToSltc filePath w).2.1 k h
  | restore filePath robotPose =>
      exact congrFun (eval_restore K D format rosMsgToSltc filePath robotPose w).1 k
  | elsewhere step => exact h w

include K in
theorem Command.content_executeAll {k : κ} {cs : List (Command RosPose ρ φ)}
    (h : ∀ c ∈ cs, c.Leaves D k) (w : World ρ φ) :
    D.content (executeAll R F format rosMsgToSltc cs w).files k = D.content w.files k := by
  induction cs generalizing w with
  | nil => rfl
  | cons c cs ih =>
      exact (ih (fun c hc => h c (List.mem_cons_of_mem _ hc)) _).trans
        (Command.content_execute K D format rosMsgToSltc (h c List.mem_cons_self) w)

/-- The map that is saved comes back if both callbacks return `true`.  If the first
returns `false`, the second does, and the robot keeps the map it has by then. -/
theorem backup_restore (hformat : format.Lossless) {savePath setPath : String}
    (hpath : D.file setPath = D.file savePath) {between : List (Command RosPose ρ φ)}
    (hbetween : ∀ c ∈ between, c.Leaves D (D.file savePath)) (robotPose : RosPose)
    (w : World ρ φ) :
    let saved := (syncGetStcmFile savePath).eval (clientHandler R format rosMsgToSltc F) w
    let later := Command.executeAll R F format rosMsgToSltc between saved.2
    let set := (syncSetStcmFile setPath robotPose).eval (clientHandler R format rosMsgToSltc F)
      later
    ∀ errMsg errMsg', saved.1 = .ok (true, errMsg) → set.1 = .ok (true, errMsg') →
      ∃ b b', saved.2.returned = w.returned ++ [b] ∧ set.2.returned = later.returned ++ [b'] ∧
        (b = true → b' = true → K.map set.2.server.robot = K.map w.server.robot) ∧
        (b = false → b' = false ∧ K.map set.2.server.robot = K.map later.server.robot) := by
  intro saved later set errMsg errMsg' hsaved hset
  obtain ⟨-, -, b, bytes, hreturned, hsave, hempty, hcontent⟩ :=
    eval_backup K D format rosMsgToSltc savePath w
  obtain ⟨-, hsuccess⟩ := eval_restore K D format rosMsgToSltc setPath robotPose later
  obtain ⟨b', hreturned', hload, hnone⟩ := hsuccess errMsg' hset
  have hbytes : D.content later.files (D.file setPath) = bytes := by
    rw [hpath, ← hcontent errMsg hsaved]
    exact Command.content_executeAll K D format rosMsgToSltc hbetween saved.2
  rw [hbytes] at hload hnone
  refine ⟨b, b', hreturned, hreturned', fun hb hb' => ?_, fun hb => hnone ?_⟩
  · have hsame := hformat.loadStream_saveStream _ _ (hsave hb)
    exact Option.some.inj ((hload hb').symm.trans hsame)
  · rw [hempty hb]
    exact hformat.loadStream_nil

end Client

/-! ### A robot without failures -/

def steadyRobot : Robot UInt8 Unit (Settings UInt8) where
  connected x := (true, x)
  call c x := (.ok true, c.effect 0 x)
  getCompositeMap x := (.ok x.map, x)
  allocate _ x := (.ok (), x)

def steadyRobot_keepsMap : steadyRobot.KeepsMap where
  settings := id
  cleared := 0
  call_settings _ _ := Or.inr rfl
  connected_map _ := rfl
  allocate_map _ _ := rfl
  getCompositeMap_map _ := rfl
  getCompositeMap_ok _ _ h := (Except.ok.inj h).symm
  setCompositeMap_ok _ _ _ _ := rfl

theorem oneByte_lossless : oneByte.Lossless where
  loadStream_saveStream map bytes h := by rw [← Option.some.inj h]; rfl
  loadStream_nil := rfl

structure Disk where
  content : String → List UInt8
  current : String

def disk : Files Disk where
  openIfstream filePath s := (true, { s with current := filePath })
  tellg s := (some (s.content s.current).length, s)
  resize _ s := (.ok (), s)
  read size s := ((s.content s.current).take size, s)
  openOfstream filePath s := (true, ⟨Function.update s.content filePath [], filePath⟩)
  write bytes s :=
    (false, { s with
      content := Function.update s.content s.current (s.content s.current ++ bytes) })

def disk_isDisk : disk.IsDisk String where
  file := id
  content := Disk.content
  current := Disk.current
  openIfstream_content _ _ := rfl
  openIfstream_current _ _ _ := rfl
  tellg_content _ := rfl
  tellg_current _ := rfl
  tellg_length _ _ h := (Option.some.inj h).symm
  resize_content _ _ := rfl
  resize_current _ _ := rfl
  read_content _ _ := rfl
  read_prefix _ _ := List.take_prefix _ _
  openOfstream_current _ _ _ := rfl
  openOfstream_trunc _ _ _ := Function.update_self ..
  openOfstream_frame _ _ _ h := Function.update_of_ne h ..
  write_append _ _ _ := Function.update_self ..
  write_frame _ _ _ h := Function.update_of_ne h ..

/-- The robot has seen another place before it is given its map again. -/
theorem backup_restore_elsewhere :
    let explore : Command Unit (Settings UInt8) Disk :=
      .elsewhere fun w => { w with server := ⟨w.server.syncMapRequested, ⟨9, true, true⟩⟩ }
    let saved := (syncGetStcmFile "a").eval (clientHandler steadyRobot oneByte id disk)
      ⟨⟨some false, ⟨5, true, true⟩⟩, ⟨fun _ => [], ""⟩, []⟩
    let set := (syncSetStcmFile "a" ()).eval (clientHandler steadyRobot oneByte id disk)
      (Command.executeAll steadyRobot disk oneByte id [explore] saved.2)
    (steadyRobot_keepsMap.map set.2.server.robot) = 5 := by
  intro explore saved set
  have hleaves : ∀ c ∈ [explore], c.Leaves disk_isDisk "a" :=
    List.forall_mem_singleton.mpr fun _ => rfl
  obtain ⟨b, b', hb, hb', hmap, -⟩ := backup_restore steadyRobot_keepsMap disk_isDisk oneByte id
    oneByte_lossless rfl hleaves () ⟨⟨some false, ⟨5, true, true⟩⟩, ⟨fun _ => [], ""⟩, []⟩
    "" "" rfl rfl
  exact hmap (by cases hb; rfl) (by cases hb'; rfl)

end Ros2WsDemo.Stcm

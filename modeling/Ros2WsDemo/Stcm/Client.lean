import Ros2WsDemo.Stcm.Upload

/-!
# The map services seen by a client

A client sends a request, waits until its future completes, and takes that for
success.  The middleware runs the server's callback and hands the response back;
it drops what the callback has returned.  So the client's answer is right exactly
when the callback cannot fail, or when the client itself fails.
-/

namespace Ros2WsDemo.Stcm

open Effect

/-! ## Operations -/

inductive FutureReturnCode where
  | success
  | interrupted
  | timeout
  deriving DecidableEq, Repr

/-- Sending a request and spinning until its future completes is one operation. -/
inductive ClientOp (RosPose : Type) where
  | callSyncGetStcm
  | callSyncSetStcm (req : SyncSetStcm.Request RosPose)
  | openIfstream (filePath : String)
  | tellg
  | resize (size : ℕ)
  | read (size : ℕ)
  | openOfstream (filePath : String)
  | write (bytes : List UInt8)

abbrev ClientRet (RosPose : Type) : ClientOp RosPose → Type
  | .callSyncGetStcm => FutureReturnCode × SyncGetStcm.Response
  | .callSyncSetStcm _ => FutureReturnCode × SyncSetStcm.Response
  | .openIfstream _ => Bool
  | .tellg => Option ℕ
  | .resize _ => Except Exception Unit
  | .read _ => List UInt8
  | .openOfstream _ => Bool
  | .write _ => Bool

/-- The client's files and memory.  `read` answers with the bytes it got, whose
number is `gcount`, and `write` with whether it failed. -/
structure Files (φ : Type) where
  openIfstream : String → φ → Bool × φ
  tellg : φ → Option ℕ × φ
  resize : ℕ → φ → Except Exception Unit × φ
  read : ℕ → φ → List UInt8 × φ
  openOfstream : String → φ → Bool × φ
  write : List UInt8 → φ → Bool × φ

/-- The server, the client's files, and the results of the callbacks so far. -/
structure World (ρ φ : Type) where
  server : State ρ
  files : φ
  returned : List Bool

section Model

variable {M P RosPose ρ φ : Type}

/-- `create_service` takes a callback without result; the response is all that is
sent back. -/
def advertiseService {Resp : Type} (R : Robot M P ρ) (noResp : Resp)
    (rosCbFun : ServerM M P (Bool × Resp)) (w : World ρ φ) :
    (FutureReturnCode × Resp) × World ρ φ :=
  match rosCbFun.eval (handler R) w.server with
  | (.ok (b, resp), s) =>
      ((.success, resp), { w with server := s, returned := w.returned ++ [b] })
  | (.error _, s) => ((.interrupted, noResp), { w with server := s })

@[simp] def clientHandler (R : Robot M P ρ) (format : StcmFormat M) (rosMsgToSltc : RosPose → P)
    (F : Files φ) : (o : ClientOp RosPose) → World ρ φ → ClientRet RosPose o × World ρ φ
  | .callSyncGetStcm, w => advertiseService R {} (srvCbWrapperFun (srvCbSyncGetStcm format) {}) w
  | .callSyncSetStcm req, w =>
      advertiseService R {} (srvCbWrapperFun (srvCbSyncSetStcm format rosMsgToSltc req) {}) w
  | .openIfstream filePath, w =>
      ((F.openIfstream filePath w.files).1,
        { w with files := (F.openIfstream filePath w.files).2 })
  | .tellg, w => ((F.tellg w.files).1, { w with files := (F.tellg w.files).2 })
  | .resize size, w => ((F.resize size w.files).1, { w with files := (F.resize size w.files).2 })
  | .read size, w => ((F.read size w.files).1, { w with files := (F.read size w.files).2 })
  | .openOfstream filePath, w =>
      ((F.openOfstream filePath w.files).1,
        { w with files := (F.openOfstream filePath w.files).2 })
  | .write bytes, w => ((F.write bytes w.files).1, { w with files := (F.write bytes w.files).2 })

abbrev ClientM (RosPose : Type) := Prog (ClientRet RosPose) Exception

def callSyncGetStcm : ClientM RosPose (FutureReturnCode × SyncGetStcm.Response) :=
  Prog.perform ClientOp.callSyncGetStcm

def callSyncSetStcm (req : SyncSetStcm.Request RosPose) :
    ClientM RosPose (FutureReturnCode × SyncSetStcm.Response) :=
  Prog.perform (ClientOp.callSyncSetStcm req)

def openIfstream (filePath : String) : ClientM RosPose Bool :=
  Prog.perform (ClientOp.openIfstream filePath)

def tellg : ClientM RosPose (Option ℕ) := Prog.perform ClientOp.tellg

def resize (size : ℕ) : ClientM RosPose Unit :=
  Prog.perform (ClientOp.resize size) >>= fun r : Except Exception Unit => ofExcept r

def read (size : ℕ) : ClientM RosPose (List UInt8) := Prog.perform (ClientOp.read size)

def openOfstream (filePath : String) : ClientM RosPose Bool :=
  Prog.perform (ClientOp.openOfstream filePath)

def write (bytes : List UInt8) : ClientM RosPose Bool := Prog.perform (ClientOp.write bytes)

/-! ## `SlamwareRosSdkClient`

The overloads that work on files return `errMsg` along with their result. -/

def syncGetStcm (srvMsgResp : SyncGetStcm.Response) :
    ClientM RosPose (Bool × SyncGetStcm.Response) := do
  let result ← callSyncGetStcm
  if result.1 = .success then
    return (true, { srvMsgResp with rawStcm := result.2.rawStcm })
  return (false, srvMsgResp)

def syncSetStcm (srvMsg : SyncSetStcm.Request RosPose) : ClientM RosPose Bool := do
  let result ← callSyncSetStcm srvMsg
  if result.1 = .success then
    return true
  return false

def syncGetStcmFile (filePath : String) : ClientM RosPose (Bool × String) := do
  let (called, srvMsgResp) ← syncGetStcm {}
  if !called then
    return (false, "failed to call syncGetStcm().")
  let isOpen ← openOfstream filePath
  if !isOpen then
    return (false, "failed to open file.")
  let fail ← write srvMsgResp.rawStcm
  if fail then
    return (false, "failed to write file")
  return (true, "")

def syncSetStcmFile (filePath : String) (robotPose : RosPose) :
    ClientM RosPose (Bool × String) := do
  let isOpen ← openIfstream filePath
  if !isOpen then
    return (false, "failed to open file")
  match ← tellg with
  | none => return (false, "failed to get file size.")
  | some szDat => do
      resize szDat
      let rawStcm ← read szDat
      if rawStcm.length ≠ szDat then
        return (false, "failed to read file data.")
      let called ← syncSetStcm ⟨rawStcm, robotPose⟩
      if !called then
        return (false, "failed to call syncSetStcm().")
      return (true, "")

end Model

end Ros2WsDemo.Stcm

import Ros2WsDemo.Lib.Interleaving
import Ros2WsDemo.MapHolder.Refinement

/-!
# `ServerExploreMapUpdateWorker`

The worker as a program over the operations it performs on the platform, on the
work data it shares with the rest of the server, and on its own members.  While
it runs, other parts of the server may request a map sync at any time.  What the
platform answers is a parameter.
-/

namespace Ros2WsDemo

open Effect ServerMapHolder

namespace ServerExploreMapUpdateWorker

/-! ## Operations -/

inductive Op (F : Type) where
  | writeIsWorkLoopInitOk (b : Bool)
  | readShouldReinitMap
  | writeShouldReinitMap (b : Bool)
  | loadSyncMapRequested
  | storeSyncMapRequested (b : Bool)
  | requestSyncMap
  | readExploreMapHolder
  | callExploreMapHolder (call : HolderCall F)
  | readRobotPose
  | getParameter (name : String)
  | getMap (area : RectangleF F)
  | getKnownArea

def Ret (F : Type) : Op F → Type
  | .writeIsWorkLoopInitOk _ => Unit
  | .readShouldReinitMap => Bool
  | .writeShouldReinitMap _ => Unit
  | .loadSyncMapRequested => Bool
  | .storeSyncMapRequested _ => Unit
  | .requestSyncMap => Unit
  | .readExploreMapHolder => ServerMapHolder F
  | .callExploreMapHolder _ => Except Exn Unit
  | .readRobotPose => F × F
  | .getParameter _ => F
  | .getMap _ => Except Exn (Map F)
  | .getKnownArea => Except Exn (RectangleF F)

/-- `requestSyncMap` from another thread. -/
inductive Act where
  | requestSyncMap
  deriving DecidableEq

inductive Job where
  | reinitWorkLoop
  | doPerform
  deriving DecidableEq

structure State (F : Type) where
  isWorkLoopInitOk : Bool
  shouldReinitMap : Bool
  syncMapRequested : Bool
  exploreMapHolder : ServerMapHolder F

variable {F : Type} [FloatArith F]

def State.init : State F where
  isWorkLoopInitOk := false
  shouldReinitMap := true
  syncMapRequested := true
  exploreMapHolder := ServerMapHolder.new

/-- What an operation may do; `answers` restricts what it may be answered where
the state does not decide it. -/
def handle (answers : (o : Op F) → Ret F o → Prop) (s : State F) :
    (o : Op F) → Ret F o → State F → Prop
  | .writeIsWorkLoopInitOk b, _, s' => s' = { s with isWorkLoopInitOk := b }
  | .readShouldReinitMap, r, s' => r = s.shouldReinitMap ∧ s' = s
  | .writeShouldReinitMap b, _, s' => s' = { s with shouldReinitMap := b }
  | .loadSyncMapRequested, r, s' => r = s.syncMapRequested ∧ s' = s
  | .storeSyncMapRequested b, _, s' => s' = { s with syncMapRequested := b }
  | .requestSyncMap, _, s' => s' = { s with syncMapRequested := true }
  | .readExploreMapHolder, r, s' => r = s.exploreMapHolder ∧ s' = s
  | .callExploreMapHolder call, r, s' => ∃ alloc,
      match (call.exec alloc).run s.exploreMapHolder with
      | .ok _ h => r = .ok () ∧ s' = { s with exploreMapHolder := h }
      | .error e h => r = .error e ∧ s' = { s with exploreMapHolder := h }
  | .readRobotPose, r, s' => answers .readRobotPose r ∧ s' = s
  | .getParameter name, r, s' => answers (.getParameter name) r ∧ s' = s
  | .getMap area, r, s' => answers (.getMap area) r ∧ s' = s
  | .getKnownArea, r, s' => answers .getKnownArea r ∧ s' = s

def system (answers : (o : Op F) → Ret F o → Prop) : System (Ret F) Act (State F) where
  handle := handle answers
  act := fun s _ s' => s' = { s with syncMapRequested := true }

/-- The request flag after an operation. -/
def Op.flagAfter (flag : Bool) : Op F → Bool
  | .storeSyncMapRequested b => b
  | .requestSyncMap => true
  | _ => flag

def Op.reinitAfter (shouldReinitMap : Bool) : Op F → Bool
  | .writeShouldReinitMap b => b
  | _ => shouldReinitMap

theorem handle_flags {answers : (o : Op F) → Ret F o → Prop} {s s' : State F} {o : Op F}
    {r : Ret F o} (h : (system answers).handle s o r s') :
    s'.syncMapRequested = o.flagAfter s.syncMapRequested ∧
      s'.shouldReinitMap = o.reinitAfter s.shouldReinitMap := by
  cases o with
  | callExploreMapHolder call =>
      obtain ⟨alloc, h⟩ := h
      cases hrun : (call.exec alloc).run s.exploreMapHolder with
      | ok a holder =>
          simp only [hrun] at h
          rw [h.2]
          exact ⟨rfl, rfl⟩
      | error e holder =>
          simp only [hrun] at h
          rw [h.2]
          exact ⟨rfl, rfl⟩
  | writeIsWorkLoopInitOk b => cases h; exact ⟨rfl, rfl⟩
  | writeShouldReinitMap b => cases h; exact ⟨rfl, rfl⟩
  | storeSyncMapRequested b => cases h; exact ⟨rfl, rfl⟩
  | requestSyncMap => cases h; exact ⟨rfl, rfl⟩
  | readShouldReinitMap => rw [h.2]; exact ⟨rfl, rfl⟩
  | loadSyncMapRequested => rw [h.2]; exact ⟨rfl, rfl⟩
  | readExploreMapHolder => rw [h.2]; exact ⟨rfl, rfl⟩
  | readRobotPose => rw [h.2]; exact ⟨rfl, rfl⟩
  | getParameter name => rw [h.2]; exact ⟨rfl, rfl⟩
  | getMap area => rw [h.2]; exact ⟨rfl, rfl⟩
  | getKnownArea => rw [h.2]; exact ⟨rfl, rfl⟩

/-- The deterministic system in which the allocator never fails and the platform
gives fixed answers. -/
def handler (answer : (o : Op F) → Ret F o) : (o : Op F) → State F → Ret F o × State F
  | .writeIsWorkLoopInitOk b, s => ((), { s with isWorkLoopInitOk := b })
  | .readShouldReinitMap, s => (s.shouldReinitMap, s)
  | .writeShouldReinitMap b, s => ((), { s with shouldReinitMap := b })
  | .loadSyncMapRequested, s => (s.syncMapRequested, s)
  | .storeSyncMapRequested b, s => ((), { s with syncMapRequested := b })
  | .requestSyncMap, s => ((), { s with syncMapRequested := true })
  | .readExploreMapHolder, s => (s.exploreMapHolder, s)
  | .callExploreMapHolder call, s =>
      match (call.exec fun _ => true).run s.exploreMapHolder with
      | .ok _ h => (.ok (), { s with exploreMapHolder := h })
      | .error e h => (.error e, { s with exploreMapHolder := h })
  | .readRobotPose, s => (answer .readRobotPose, s)
  | .getParameter name, s => (answer (.getParameter name), s)
  | .getMap area, s => (answer (.getMap area), s)
  | .getKnownArea, s => (answer .getKnownArea, s)

def action (s : State F) : State F := { s with syncMapRequested := true }

theorem handle_handler {answers : (o : Op F) → Ret F o → Prop} {answer : (o : Op F) → Ret F o}
    (h : ∀ o, answers o (answer o)) (s : State F) (o : Op F) :
    (system answers).handle s o (handler answer o s).1 (handler answer o s).2 := by
  cases o with
  | callExploreMapHolder call =>
      refine ⟨fun _ => true, ?_⟩
      simp only [handler]
      cases (call.exec fun _ => true).run s.exploreMapHolder <;> exact ⟨rfl, rfl⟩
  | readRobotPose => exact ⟨h _, rfl⟩
  | getParameter name => exact ⟨h _, rfl⟩
  | getMap area => exact ⟨h _, rfl⟩
  | getKnownArea => exact ⟨h _, rfl⟩
  | writeIsWorkLoopInitOk b => rfl
  | writeShouldReinitMap b => rfl
  | storeSyncMapRequested b => rfl
  | requestSyncMap => rfl
  | readShouldReinitMap => exact ⟨rfl, rfl⟩
  | loadSyncMapRequested => exact ⟨rfl, rfl⟩
  | readExploreMapHolder => exact ⟨rfl, rfl⟩

abbrev Worker (F α : Type) := Prog (Ret F) Exn α

def perform (o : Op F) : Worker F (Ret F o) := Prog.perform o

/-! ## The functions of the source -/

def readExploreMapHolder : Worker F (ServerMapHolder F) := perform (F := F) .readExploreMapHolder

def callHolder (call : HolderCall F) : Worker F Unit :=
  perform (.callExploreMapHolder call) >>= fun r : Except Exn Unit => ofExcept r

def getKnownArea : Worker F (RectangleF F) :=
  perform (F := F) .getKnownArea >>= fun r : Except Exn (RectangleF F) => ofExcept r

def getMap (area : RectangleF F) : Worker F (Map F) :=
  perform (.getMap area) >>= fun r : Except Exn (Map F) => ofExcept r

def getParameter (name : String) : Worker F F := perform (F := F) (.getParameter name)

def writeShouldReinitMap (b : Bool) : Worker F Unit := perform (F := F) (.writeShouldReinitMap b)

def storeSyncMapRequested (b : Bool) : Worker F Unit := perform (F := F) (.storeSyncMapRequested b)

def writeIsWorkLoopInitOk (b : Bool) : Worker F Unit := perform (F := F) (.writeIsWorkLoopInitOk b)

/-- Only `OperationFailException` is caught. -/
def getMapByPltfm (area : RectangleF F) : Worker F (Map F) :=
  Prog.tryCatch (getMap area) fun
    | .operationFail => return none
    | e => throw e

def requestReinitMap : Worker F Unit :=
  writeShouldReinitMap true

/-- The base class sets `isWorkLoopInitOk_` first. -/
def reinitWorkLoop : Worker F Bool := do
  writeIsWorkLoopInitOk true
  writeIsWorkLoopInitOk false
  requestReinitMap
  writeIsWorkLoopInitOk true
  return true

/-- The area asked for to learn the resolution of the map. -/
def reinitArea : RectangleF F :=
  let fHalfWH := FloatArith.div (FloatArith.ofInt 1) (FloatArith.ofInt 2)
  let fWH := FloatArith.add fHalfWH fHalfWH
  let pos := FloatArith.sub (FloatArith.ofInt 0) fHalfWH
  ⟨pos, pos, fWH, fWH⟩

def checkToReinitMap : Worker F Bool := do
  let shouldReinitMap : Bool ← perform (F := F) .readShouldReinitMap
  if !shouldReinitMap then
    return true
  storeSyncMapRequested true
  match ← getMapByPltfm reinitArea with
  | none => return false
  | some hMap =>
      callHolder (.reinit hMap.mapResolution.1)
      writeShouldReinitMap false
      return true

def checkRecvResolution (recvResolution : F) : Worker F Bool := do
  let fResolution := (← readExploreMapHolder).resolution
  if FloatArith.fequal fResolution recvResolution then
    return true
  requestReinitMap
  return false

def updateMapInCellIdxRect (reqIdxRect : RectangleI) : Worker F Bool := do
  let h ← readExploreMapHolder
  let reqArea ← ofExcept (sfCalcAreaByCellIdxRect h.resolution reqIdxRect)
  match ← getMapByPltfm reqArea with
  | none => return false
  | some hMap =>
      if !(← checkRecvResolution hMap.mapResolution.1) then
        return false
      callHolder (.setMapDataOfMap (some hMap))
      return true

/-- The inner loop of `syncWholeMap_`.  The number of cells left bounds the
number of rounds. -/
def syncRow (iOnceMaxCellCntWH cellIdxXEnd cellIdxY reqSizeY : ℤ) : ℕ → ℤ → Worker F Bool
  | 0, _ => return true
  | fuel + 1, cellIdxX =>
      if cellIdxX < cellIdxXEnd then do
        let tmpRemX := cellIdxXEnd - cellIdxX
        let reqSizeX := min tmpRemX iOnceMaxCellCntWH
        let reqIdxRect := ⟨cellIdxX, cellIdxY, reqSizeX, reqSizeY⟩
        if !(← updateMapInCellIdxRect reqIdxRect) then
          return false
        syncRow iOnceMaxCellCntWH cellIdxXEnd cellIdxY reqSizeY fuel (cellIdxX + reqSizeX)
      else return true

/-- The outer loop of `syncWholeMap_`. -/
def syncRows (iOnceMaxCellCntWH cellIdxXBegin cellIdxXEnd cellIdxYEnd : ℤ) :
    ℕ → ℤ → Worker F Bool
  | 0, _ => return true
  | fuel + 1, cellIdxY =>
      if cellIdxY < cellIdxYEnd then do
        let tmpRemY := cellIdxYEnd - cellIdxY
        let reqSizeY := min tmpRemY iOnceMaxCellCntWH
        if !(← syncRow iOnceMaxCellCntWH cellIdxXEnd cellIdxY reqSizeY
            (cellIdxXEnd - cellIdxXBegin).toNat cellIdxXBegin) then
          return false
        syncRows iOnceMaxCellCntWH cellIdxXBegin cellIdxXEnd cellIdxYEnd fuel (cellIdxY + reqSizeY)
      else return true

/-- The maximal number of cells on each side of a tile. -/
def onceMaxCellCntWH (fVal fResolution : F) : ℤ :=
  let fOnceMaxWH := FloatArith.max (FloatArith.ofInt 16) fVal
  FloatArith.round (FloatArith.div fOnceMaxWH fResolution)

def syncWholeMap : Worker F Bool := do
  let fVal ← getParameter "map_sync_once_get_max_wh"
  let fResolution := (← readExploreMapHolder).resolution
  let iOnceMaxCellCntWH := onceMaxCellCntWH fVal fResolution
  ofExcept (boostAssert (0 < iOnceMaxCellCntWH) "0 < iOnceMaxCellCntWH")
  let knownArea ← getKnownArea
  let h ← readExploreMapHolder
  let knownCellIdxRect ← ofExcept (sfCalcRoundedCellIdxRect h.resolution knownArea)
  if sfIsCellIdxRectEmpty knownCellIdxRect then
    return false
  callHolder .clear
  callHolder (.reserveByCellIdxRect knownCellIdxRect)
  let cellIdxXEnd := knownCellIdxRect.x + knownCellIdxRect.width
  let cellIdxYEnd := knownCellIdxRect.y + knownCellIdxRect.height
  syncRows iOnceMaxCellCntWH knownCellIdxRect.x cellIdxXEnd cellIdxYEnd
    (cellIdxYEnd - knownCellIdxRect.y).toNat knownCellIdxRect.y

def nearRobotArea (fVal : F) (robotPose : F × F) : RectangleF F :=
  let fHalfWH := FloatArith.max (FloatArith.ofInt 2) fVal
  let fWH := FloatArith.add fHalfWH fHalfWH
  ⟨FloatArith.sub robotPose.1 fHalfWH, FloatArith.sub robotPose.2 fHalfWH, fWH, fWH⟩

def updateMapNearRobot : Worker F Bool := do
  let fVal ← getParameter "map_update_near_robot_half_wh"
  let robotPose : F × F ← perform (F := F) .readRobotPose
  let h ← readExploreMapHolder
  let nearRobotIdxRect ← ofExcept
    (sfCalcMinBoundingCellIdxRect h.resolution (nearRobotArea fVal robotPose))
  let knownArea ← getKnownArea
  let knownCellIdxRect ← ofExcept (sfCalcRoundedCellIdxRect h.resolution knownArea)
  if sfIsCellIdxRectEmpty knownCellIdxRect then
    let _ : Unit ← perform (F := F) .requestSyncMap
    return false
  let reqIdxRect := sfIntersectionOfCellIdxRect nearRobotIdxRect knownCellIdxRect
  if sfIsCellIdxRectEmpty reqIdxRect then
    return false
  updateMapInCellIdxRect reqIdxRect

def doPerform : Worker F Unit := do
  if !(← checkToReinitMap) then
    return
  let syncMapRequested : Bool ← perform (F := F) .loadSyncMapRequested
  if syncMapRequested then
    if ← syncWholeMap then
      storeSyncMapRequested false
    return
  let _ ← updateMapNearRobot
  return

def job : Job → Worker F Unit
  | .reinitWorkLoop => do
      let _ ← reinitWorkLoop
      return
  | .doPerform => doPerform

/-! ## Runs -/

abbrev WorkerConfig (F : Type) := Config (Ret F) Act Job (State F) Exn Unit

abbrev WorkerEvent (F : Type) := Event (Ret F) Act Job

/-- The worker after its construction. -/
def WorkerConfig.init : WorkerConfig F := ⟨.ret (), State.init, []⟩

end ServerExploreMapUpdateWorker

end Ros2WsDemo

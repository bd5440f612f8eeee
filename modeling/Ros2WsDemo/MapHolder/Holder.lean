import Ros2WsDemo.Lib.StridedCopy
import Ros2WsDemo.MapHolder.CellRect

/-!
# `ServerMapHolder`

The buffer of explored map cells.  `availCellIdxRect` is the rectangle the
buffer has room for, `validCellIdxRect` the bounding rectangle of the cells
written so far.  An operation is a state transformer that keeps the state it has
reached when it throws.  The allocator is a parameter of the operations that
grow the buffer: it says which sizes it can serve.
-/

namespace Ros2WsDemo

structure ServerMapHolder (F : Type) where
  moreCellCntToExtend : ℤ
  resolution : F
  availCellIdxRect : RectangleI
  availMapArea : RectangleF F
  validCellIdxRect : RectangleI
  validMapArea : RectangleF F
  mapDat : List UInt8
  deriving DecidableEq, Repr

/-- The remaining fields of the origin are constants (height 0, identity orientation). -/
structure GetMapResponse (F : Type) where
  resolution : F
  originX : F
  originY : F
  width : ℕ
  height : ℕ
  data : List Int8
  deriving DecidableEq, Repr

abbrev HolderM (F : Type) := EStateM Exn (ServerMapHolder F)

namespace ServerMapHolder

variable {F : Type} [FloatArith F]

open StridedCopy

def defaultMoreCellCntToExtend : ℤ := 32

def new : ServerMapHolder F where
  moreCellCntToExtend := defaultMoreCellCntToExtend
  resolution := FloatArith.resolution005
  availCellIdxRect := {}
  availMapArea := .zero
  validCellIdxRect := {}
  validMapArea := .zero
  mapDat := []

def isMapDataEmpty (h : ServerMapHolder F) : Prop := sfIsCellIdxRectEmpty h.validCellIdxRect

def clear : HolderM F Unit :=
  modify fun h => { h with
    availCellIdxRect := {}
    availMapArea := .zero
    validCellIdxRect := {}
    validMapArea := .zero
    mapDat := [] }

def sfCheckResolutionValidity (resolution : F) : Except Exn Unit :=
  if FloatArith.le resolution FloatArith.epsilon then .error (.runtimeError "invalid resolution.")
  else .ok ()

def sfCheckResolutionEquality (resA resB : F) : Except Exn Unit := do
  if !FloatArith.fequal resA resB then
    throw (.runtimeError "inconsistent resolution.")
  sfCheckResolutionValidity resA
  sfCheckResolutionValidity resB

def reinit (resolution : F) : HolderM F Unit := do
  ofExcept (sfCheckResolutionValidity resolution)
  clear
  modify fun h => { h with resolution := resolution }

def setMoreCellCountToExtend (moreCellCntToExtend : ℤ) : HolderM F Unit :=
  modify fun h => { h with
    moreCellCntToExtend :=
      if 0 ≤ moreCellCntToExtend then moreCellCntToExtend else defaultMoreCellCntToExtend }

/-! ## Growing the buffer -/

def allocZero (alloc : ℕ → Bool) (newDatSize : ℤ) : Except Exn (List UInt8) :=
  if alloc newDatSize.toNat then .ok (List.replicate newDatSize.toNat 0) else .error .badAlloc

/-- An access outside a buffer is undefined in the source. -/
def inBuffer {α : Type} : Option α → Except Exn α
  | some a => .ok a
  | none => .error .outOfRange

/-- The row loop of `reserveByCellIdxRect`: the valid cells move to the new buffer. -/
def copyValidCells (h : ServerMapHolder F) (newAvailCellIdxRect : RectangleI)
    (newMapDat : List UInt8) : Except Exn (List UInt8) := do
  let destOffX := h.validCellIdxRect.x - newAvailCellIdxRect.x
  boostAssert (0 ≤ destOffX ∧ destOffX < newAvailCellIdxRect.width)
    "0 <= destOffX && destOffX < newAvailCellIdxRect.width()"
  boostAssert (destOffX + h.validCellIdxRect.width ≤ newAvailCellIdxRect.width)
    "destOffX + validCellIdxRect_.width() <= newAvailCellIdxRect.width()"
  let destOffY := h.validCellIdxRect.y - newAvailCellIdxRect.y
  boostAssert (0 ≤ destOffY ∧ destOffY < newAvailCellIdxRect.height)
    "0 <= destOffY && destOffY < newAvailCellIdxRect.height()"
  boostAssert (destOffY + h.validCellIdxRect.height ≤ newAvailCellIdxRect.height)
    "destOffY + validCellIdxRect_.height() <= newAvailCellIdxRect.height()"
  let srcCellOffset := (h.validCellIdxRect.y - h.availCellIdxRect.y) * h.availCellIdxRect.width +
    (h.validCellIdxRect.x - h.availCellIdxRect.x)
  let destCellOffset := destOffY * newAvailCellIdxRect.width + destOffX
  inBuffer (copyRows id (ofList h.mapDat) h.validCellIdxRect.width.toNat
    h.availCellIdxRect.width newAvailCellIdxRect.width h.validCellIdxRect.height.toNat
    srcCellOffset destCellOffset newMapDat)

/-- What `reserveByCellIdxRect` computes before it assigns anything. -/
def growTo (alloc : ℕ → Bool) (h : ServerMapHolder F) (cellIdxRect : RectangleI) :
    Except Exn (RectangleI × List UInt8) := do
  let newAvailCellIdxRect ← sfMergeCellIdxRect h.availCellIdxRect cellIdxRect
  let newAvailCellIdxRect ← sfCalcAdjustedCellIdxRect newAvailCellIdxRect
  let newMapDat ← allocZero alloc (newAvailCellIdxRect.width * newAvailCellIdxRect.height)
  if sfIsCellIdxRectEmpty h.validCellIdxRect then
    return (newAvailCellIdxRect, newMapDat)
  let newMapDat ← copyValidCells h newAvailCellIdxRect newMapDat
  return (newAvailCellIdxRect, newMapDat)

def reserveByCellIdxRect (alloc : ℕ → Bool) (cellIdxRect : RectangleI) : HolderM F Unit := do
  if sfIsCellIdxRectEmpty cellIdxRect then
    return ()
  let h ← get
  if sfDoesCellIdxRectContainRect h.availCellIdxRect cellIdxRect then
    return ()
  let (newAvailCellIdxRect, newMapDat) ← ofExcept (growTo alloc h cellIdxRect)
  let availMapArea ← ofExcept (sfCalcAreaByCellIdxRect h.resolution newAvailCellIdxRect)
  set { h with
    availCellIdxRect := newAvailCellIdxRect
    availMapArea := availMapArea
    mapDat := newMapDat }

def reserveByArea (alloc : ℕ → Bool) (reqArea : RectangleF F) : HolderM F Unit := do
  if reqArea.empty then
    return ()
  let h ← get
  let minBoundingCellIdxRect ← ofExcept (sfCalcMinBoundingCellIdxRect h.resolution reqArea)
  reserveByCellIdxRect alloc minBoundingCellIdxRect

/-- The rectangle `checkToExtendMap_` asks for when the buffer has to grow: on
every side on which the update sticks out it goes `moreCellCntToExtend` further. -/
def extendedCellIdxRect (h : ServerMapHolder F) (cellIdxRectToUp : RectangleI) : RectangleI :=
  let more := h.moreCellCntToExtend
  let avail := h.availCellIdxRect
  let tXMin := if cellIdxRectToUp.x < avail.x then cellIdxRectToUp.x - more else avail.x
  let tYMin := if cellIdxRectToUp.y < avail.y then cellIdxRectToUp.y - more else avail.y
  let upXEnd := cellIdxRectToUp.x + cellIdxRectToUp.width
  let tXEnd := if avail.x + avail.width < upXEnd then upXEnd + more else avail.x + avail.width
  let upYEnd := cellIdxRectToUp.y + cellIdxRectToUp.height
  let tYEnd := if avail.y + avail.height < upYEnd then upYEnd + more else avail.y + avail.height
  ⟨tXMin, tYMin, tXEnd - tXMin, tYEnd - tYMin⟩

def checkToExtendMap (alloc : ℕ → Bool) (cellIdxRectToUp : RectangleI) : HolderM F Unit := do
  let h ← get
  ofExcept (boostAssert (0 ≤ h.moreCellCntToExtend) "0 <= moreCellCntToExtend_")
  ofExcept (boostAssert (0 ≤ h.availCellIdxRect.width) "0 <= availCellIdxRect_.width()")
  ofExcept (boostAssert (0 ≤ h.availCellIdxRect.height) "0 <= availCellIdxRect_.height()")
  if sfIsCellIdxRectEmpty cellIdxRectToUp then
    return ()
  if sfDoesCellIdxRectContainRect h.availCellIdxRect cellIdxRectToUp then
    return ()
  let tCellIdxRect := extendedCellIdxRect h cellIdxRectToUp
  ofExcept (boostAssert (0 < tCellIdxRect.width) "tXMin < tXEnd")
  ofExcept (boostAssert (0 < tCellIdxRect.height) "tYMin < tYEnd")
  reserveByCellIdxRect alloc tCellIdxRect

/-! ## Writing -/

def cellIdxRectToUp (resolution x y : F) (dimensionX dimensionY : ℤ) : RectangleI where
  x := FloatArith.round (FloatArith.div x resolution)
  y := FloatArith.round (FloatArith.div y resolution)
  width := dimensionX
  height := dimensionY

/-- The assertions and the row loop of `setMapData`, on the grown buffer. -/
def copyBlock (h : ServerMapHolder F) (rectToUp : RectangleI) (srcDat : ℤ → Option UInt8) :
    Except Exn (List UInt8) := do
  let destOffX := rectToUp.x - h.availCellIdxRect.x
  boostAssert (0 ≤ destOffX ∧ destOffX < h.availCellIdxRect.width)
    "0 <= destOffX && destOffX < availCellIdxRect_.width()"
  boostAssert (destOffX + rectToUp.width ≤ h.availCellIdxRect.width)
    "destOffX + dimensionX <= availCellIdxRect_.width()"
  let destOffY := rectToUp.y - h.availCellIdxRect.y
  boostAssert (0 ≤ destOffY ∧ destOffY < h.availCellIdxRect.height)
    "0 <= destOffY && destOffY < availCellIdxRect_.height()"
  boostAssert (destOffY + rectToUp.height ≤ h.availCellIdxRect.height)
    "destOffY + dimensionY <= availCellIdxRect_.height()"
  let destCellOffset := destOffY * h.availCellIdxRect.width + destOffX
  inBuffer (copyRows id srcDat rectToUp.width.toNat rectToUp.width h.availCellIdxRect.width
    rectToUp.height.toNat 0 destCellOffset h.mapDat)

/-- `srcDat` is the memory that can be read through the pointer. -/
def setMapData (alloc : ℕ → Bool) (x y resolution : F) (dimensionX dimensionY : ℤ)
    (srcDat : ℤ → Option UInt8) : HolderM F Unit := do
  if dimensionX < 1 ∨ dimensionY < 1 then
    return ()
  let h ← get
  ofExcept (sfCheckResolutionEquality resolution h.resolution)
  let rectToUp := cellIdxRectToUp h.resolution x y dimensionX dimensionY
  checkToExtendMap alloc rectToUp
  let h ← get
  let mapDat ← ofExcept (copyBlock h rectToUp srcDat)
  let validCellIdxRect ← ofExcept (sfMergeCellIdxRect h.validCellIdxRect rectToUp)
  let validMapArea ← ofExcept (sfCalcAreaByCellIdxRect h.resolution validCellIdxRect)
  set { h with
    mapDat := mapDat
    validCellIdxRect := validCellIdxRect
    validMapArea := validMapArea }

/-- The overload of `setMapData` for a map of the platform. -/
def setMapDataOfMap (alloc : ℕ → Bool) (hMap : Map F) : HolderM F Unit := do
  match hMap with
  | none => return ()
  | some m =>
      if !FloatArith.fequal m.mapResolution.1 m.mapResolution.2 then
        throw (.runtimeError "map resolution is different on x and y.")
      if (m.mapData.length : ℤ) < m.mapDimension.1 * m.mapDimension.2 then
        throw (.runtimeError "map data size is less than (dimensionX * dimensionY).")
      setMapData alloc m.mapPosition.1 m.mapPosition.2 m.mapResolution.1
        m.mapDimension.1 m.mapDimension.2 (ofList m.mapData)

/-! ## Reading -/

/-- The three-way classification in the innermost loop of `fillRosMapMsg`. -/
def toOccupancy (tVal : UInt8) : Int8 :=
  if 0 = tVal then -1 else if tVal ≤ 127 then 0 else 100

def fillCells (h : ServerMapHolder F) (resIdxRect intersecRect : RectangleI) (data : List Int8) :
    Except Exn (List Int8) :=
  let srcOffsetX := intersecRect.x - h.availCellIdxRect.x
  let srcOffsetY := intersecRect.y - h.availCellIdxRect.y
  let destOffsetX := intersecRect.x - resIdxRect.x
  let destOffsetY := intersecRect.y - resIdxRect.y
  inBuffer (copyRows toOccupancy (ofList h.mapDat) intersecRect.width.toNat
    h.availCellIdxRect.width resIdxRect.width intersecRect.height.toNat
    (srcOffsetY * h.availCellIdxRect.width + srcOffsetX)
    (destOffsetY * resIdxRect.width + destOffsetX) data)

def fillRosMapMsg (h : ServerMapHolder F) (reqIdxRect : RectangleI) :
    Except Exn (RectangleI × GetMapResponse F) := do
  let resArea ← sfCalcAreaByCellIdxRect h.resolution reqIdxRect
  let intersecRect := sfIntersectionOfCellIdxRect h.validCellIdxRect reqIdxRect
  let msgMap : GetMapResponse F := ⟨h.resolution, resArea.x, resArea.y, 0, 0, []⟩
  if sfIsCellIdxRectEmpty reqIdxRect then
    return (reqIdxRect, msgMap)
  let width := reqIdxRect.width.toNat
  let height := reqIdxRect.height.toNat
  let data := List.replicate (width * height) (-1)
  let data ← if sfIsCellIdxRectEmpty intersecRect then pure data
    else fillCells h reqIdxRect intersecRect data
  return (reqIdxRect, { msgMap with width := width, height := height, data := data })

def fillRosMapMsgByArea (h : ServerMapHolder F) (reqArea : RectangleF F) :
    Except Exn (RectangleI × GetMapResponse F) := do
  let reqIdxRect ← if reqArea.empty then pure {}
    else sfCalcMinBoundingCellIdxRect h.resolution reqArea
  fillRosMapMsg h reqIdxRect

def fillRosMapMsgOfValid (h : ServerMapHolder F) : Except Exn (RectangleI × GetMapResponse F) :=
  fillRosMapMsg h h.validCellIdxRect

end ServerMapHolder

/-! ## Calls -/

/-- The public operations that change a holder. -/
inductive HolderCall (F : Type) where
  | clear
  | reinit (resolution : F)
  | setMoreCellCountToExtend (moreCellCntToExtend : ℤ)
  | reserveByCellIdxRect (cellIdxRect : RectangleI)
  | reserveByArea (reqArea : RectangleF F)
  | setMapData (x y resolution : F) (dimensionX dimensionY : ℤ) (srcDat : ℕ → UInt8)
  | setMapDataOfMap (hMap : Map F)

namespace HolderCall

variable {F : Type} [FloatArith F]

def exec (alloc : ℕ → Bool) : HolderCall F → HolderM F Unit
  | clear => ServerMapHolder.clear
  | reinit resolution => ServerMapHolder.reinit resolution
  | setMoreCellCountToExtend n => ServerMapHolder.setMoreCellCountToExtend n
  | reserveByCellIdxRect r => ServerMapHolder.reserveByCellIdxRect alloc r
  | reserveByArea a => ServerMapHolder.reserveByArea alloc a
  | setMapData x y resolution dimX dimY srcDat =>
      ServerMapHolder.setMapData alloc x y resolution dimX dimY (fun i => some (srcDat i.toNat))
  | setMapDataOfMap hMap => ServerMapHolder.setMapDataOfMap alloc hMap

def isReset : HolderCall F → Bool
  | clear | reinit _ => true
  | _ => false

end HolderCall

/-- The holder after a sequence of calls, each with the allocator it meets. -/
def runCalls {F : Type} [FloatArith F] (h : ServerMapHolder F) :
    List ((ℕ → Bool) × HolderCall F) → ServerMapHolder F
  | [] => h
  | (alloc, call) :: calls =>
      match (call.exec alloc).run h with
      | .ok _ h' => runCalls h' calls
      | .error _ h' => runCalls h' calls

end Ros2WsDemo

import Ros2WsDemo.Lib.MachineInt
import Ros2WsDemo.MapHolder.Holder

/-!
# `ServerMapHolder` on 32-bit integers

The operations once more, with the integers of the machine.  A product is taken modulo
`2 ^ 32`; a sum, a difference or a conversion that has no value in `int` is undefined and
ends the run.  Fields are assigned one by one, in the order of the source.
-/

namespace Ros2WsDemo

open MachineInt StridedCopy

/-- Why a call does not return. -/
inductive Halt where
  | exn (e : Exn)
  | signedOverflow
  deriving DecidableEq, Repr

def Halt.isFault : Halt → Bool
  | .exn e => e.isFault
  | .signedOverflow => true

abbrev HolderM32 (F : Type) := EStateM Halt (ServerMapHolder F)

/-- Steps without `int` arithmetic are as before. -/
def lift32 {α : Type} (x : Except Exn α) : Except Halt α := x.mapError .exn

def liftHolder {F α : Type} (m : HolderM F α) : HolderM32 F α := fun h =>
  match m.run h with
  | .ok a h' => .ok a h'
  | .error e h' => .error (.exn e) h'

def boostAssert32 (p : Prop) [Decidable p] (expr : String) : Except Halt Unit :=
  lift32 (boostAssert p expr)

/-- The value of an `int` sum, difference or conversion. -/
def int32 (n : ℤ) : Except Halt ℤ := if Fits n then .ok n else .error .signedOverflow

/-- A conditional that computes only in its first branch. -/
def int32If (p : Prop) [Decidable p] (n m : ℤ) : Except Halt ℤ := if p then int32 n else .ok m

def mul32 (a b : ℤ) : ℤ := wrap (a * b)

namespace ServerMapHolder

/-! ## Rectangles -/

def sfDoesCellIdxRectContainRect32 (cellIdxRect objRect : RectangleI) : Except Halt Bool :=
  if sfIsCellIdxRectEmpty cellIdxRect then .ok false
  else do
    let xEnd ← int32 (cellIdxRect.x + cellIdxRect.width)
    let yEnd ← int32 (cellIdxRect.y + cellIdxRect.height)
    let objXEnd ← int32If (0 < objRect.width) (objRect.x + objRect.width) objRect.x
    let objYEnd ← int32If (0 < objRect.height) (objRect.y + objRect.height) objRect.y
    return decide (cellIdxRect.x ≤ objRect.x ∧ objRect.x < xEnd ∧ objXEnd ≤ xEnd ∧
      cellIdxRect.y ≤ objRect.y ∧ objRect.y < yEnd ∧ objYEnd ≤ yEnd)

def sfMergeCellIdxRect32 (idxRectA idxRectB : RectangleI) : Except Halt RectangleI :=
  if sfIsCellIdxRectEmpty idxRectB then .ok idxRectA
  else if sfIsCellIdxRectEmpty idxRectA then .ok idxRectB
  else do
    let xMin := min idxRectA.x idxRectB.x
    let yMin := min idxRectA.y idxRectB.y
    let aXEnd ← int32 (idxRectA.x + idxRectA.width)
    let aYEnd ← int32 (idxRectA.y + idxRectA.height)
    let bXEnd ← int32 (idxRectB.x + idxRectB.width)
    let bYEnd ← int32 (idxRectB.y + idxRectB.height)
    let xEnd := max aXEnd bXEnd
    let yEnd := max aYEnd bYEnd
    boostAssert32 (xMin < xEnd) "xMin < xEnd"
    boostAssert32 (yMin < yEnd) "yMin < yEnd"
    let width ← int32 (xEnd - xMin)
    let height ← int32 (yEnd - yMin)
    return ⟨xMin, yMin, width, height⟩

def sfIntersectionOfCellIdxRect32 (idxRectA idxRectB : RectangleI) : Except Halt RectangleI :=
  if sfIsCellIdxRectEmpty idxRectA ∨ sfIsCellIdxRectEmpty idxRectB then .ok {}
  else do
    let xMin := max idxRectA.x idxRectB.x
    let yMin := max idxRectA.y idxRectB.y
    let aXEnd ← int32 (idxRectA.x + idxRectA.width)
    let aYEnd ← int32 (idxRectA.y + idxRectA.height)
    let bXEnd ← int32 (idxRectB.x + idxRectB.width)
    let bYEnd ← int32 (idxRectB.y + idxRectB.height)
    let xEnd := min aXEnd bXEnd
    let yEnd := min aYEnd bYEnd
    let width ← int32If (xMin < xEnd) (xEnd - xMin) 0
    let height ← int32If (yMin < yEnd) (yEnd - yMin) 0
    return ⟨xMin, yMin, width, height⟩

/-- `tmpIdx` is unsigned; for the last index of `int` it comes to `2 ^ 31`, which is no
`int`. -/
def sfGetAlignedFloorCellIdx32 (inCellIdx : ℤ) : Except Halt ℤ :=
  if inCellIdx < 0 then do
    let absIdx ← int32 (-inCellIdx)
    let tmpIdx := wrapU (absIdx - 1) / mapDataSizeAlignment
    let tmpIdx := wrapU (wrapU (tmpIdx + 1) * mapDataSizeAlignment)
    int32 (-wrap tmpIdx)
  else
    let tmpIdx := wrapU inCellIdx / mapDataSizeAlignment
    .ok (wrap (wrapU (tmpIdx * mapDataSizeAlignment)))

def sfGetAlignedCeilSize32 (inSize : ℤ) : Except Halt ℤ :=
  if inSize < 0 then .error (.exn (.runtimeError "invalid input size."))
  else
    let tmpSize := wrapU (wrapU inSize + (mapDataSizeAlignment - 1)) / mapDataSizeAlignment
    .ok (wrap (wrapU (tmpSize * mapDataSizeAlignment)))

def sfCalcAdjustedCellIdxRect32 (idxRect : RectangleI) : Except Halt RectangleI :=
  if sfIsCellIdxRectEmpty idxRect then .ok {}
  else do
    let xMin ← sfGetAlignedFloorCellIdx32 idxRect.x
    boostAssert32 (xMin ≤ idxRect.x) "xMin <= idxRect.x()"
    let yMin ← sfGetAlignedFloorCellIdx32 idxRect.y
    boostAssert32 (yMin ≤ idxRect.y) "yMin <= idxRect.y()"
    let reqXEnd ← int32 (idxRect.x + idxRect.width)
    let reqYEnd ← int32 (idxRect.y + idxRect.height)
    let tWidth ← sfGetAlignedCeilSize32 (← int32 (reqXEnd - xMin))
    let xEnd ← int32 (xMin + tWidth)
    boostAssert32 (reqXEnd ≤ xEnd) "reqXEnd <= xMin + tWidth"
    let tHeight ← sfGetAlignedCeilSize32 (← int32 (reqYEnd - yMin))
    let yEnd ← int32 (yMin + tHeight)
    boostAssert32 (reqYEnd ≤ yEnd) "reqYEnd <= yMin + tHeight"
    return ⟨xMin, yMin, tWidth, tHeight⟩

variable {F : Type} [FloatArith F]

open FloatArith (ofInt)

def minBoundingIdxMin32 (resolution pos : F) : Except Halt ℤ := do
  let idxMin ← int32 (FloatArith.floor (FloatArith.div pos resolution))
  if FloatArith.lt pos (FloatArith.mul resolution (ofInt idxMin)) then int32 (idxMin - 1)
  else return idxMin

def minBoundingIdxMax32 (resolution pos size : F) : Except Halt ℤ := do
  let srcMax := if FloatArith.lt (ofInt 0) size then FloatArith.add pos size else pos
  let idxMax ← int32 (FloatArith.floor (FloatArith.div srcMax resolution))
  let next ← int32 (idxMax + 1)
  if FloatArith.lt (FloatArith.mul resolution (ofInt next)) srcMax then return next
  else return idxMax

def sfCalcMinBoundingCellIdxRect32 (resolution : F) (reqArea : RectangleF F) :
    Except Halt RectangleI := do
  lift32 (checkResolutionAssert resolution)
  let idxXMin ← minBoundingIdxMin32 resolution reqArea.x
  let idxYMin ← minBoundingIdxMin32 resolution reqArea.y
  let idxXMax ← minBoundingIdxMax32 resolution reqArea.x reqArea.width
  let idxYMax ← minBoundingIdxMax32 resolution reqArea.y reqArea.height
  boostAssert32 (idxXMin ≤ idxXMax) "idxXMin <= idxXMax"
  boostAssert32 (idxYMin ≤ idxYMax) "idxYMin <= idxYMax"
  let width ← int32 ((← int32 (idxXMax - idxXMin)) + 1)
  let height ← int32 ((← int32 (idxYMax - idxYMin)) + 1)
  return ⟨idxXMin, idxYMin, width, height⟩

/-! ## Growing the buffer -/

/-- `newDatSize` comes from an `int`; a negative one is above every possible size. -/
def allocZero32 (alloc : ℕ → Bool) (newDatSize : ℤ) : Except Halt (List UInt8) :=
  if newDatSize < 0 then .error (.exn .otherStd)
  else lift32 (allocZero alloc newDatSize)

/-- A negative offset lies behind every buffer, once it is unsigned. -/
def copyValidCells32 (h : ServerMapHolder F) (newAvailCellIdxRect : RectangleI)
    (newMapDat : List UInt8) : Except Halt (List UInt8) := do
  let destOffX ← int32 (h.validCellIdxRect.x - newAvailCellIdxRect.x)
  boostAssert32 (0 ≤ destOffX ∧ destOffX < newAvailCellIdxRect.width)
    "0 <= destOffX && destOffX < newAvailCellIdxRect.width()"
  let destXEnd ← int32 (destOffX + h.validCellIdxRect.width)
  boostAssert32 (destXEnd ≤ newAvailCellIdxRect.width)
    "destOffX + validCellIdxRect_.width() <= newAvailCellIdxRect.width()"
  let destOffY ← int32 (h.validCellIdxRect.y - newAvailCellIdxRect.y)
  boostAssert32 (0 ≤ destOffY ∧ destOffY < newAvailCellIdxRect.height)
    "0 <= destOffY && destOffY < newAvailCellIdxRect.height()"
  let destYEnd ← int32 (destOffY + h.validCellIdxRect.height)
  boostAssert32 (destYEnd ≤ newAvailCellIdxRect.height)
    "destOffY + validCellIdxRect_.height() <= newAvailCellIdxRect.height()"
  let srcOffY ← int32 (h.validCellIdxRect.y - h.availCellIdxRect.y)
  let srcOffX ← int32 (h.validCellIdxRect.x - h.availCellIdxRect.x)
  let srcCellOffset ← int32 (mul32 srcOffY h.availCellIdxRect.width + srcOffX)
  let destCellOffset ← int32 (mul32 destOffY newAvailCellIdxRect.width + destOffX)
  lift32 (inBuffer (copyRows id (ofList h.mapDat) h.validCellIdxRect.width.toNat
    h.availCellIdxRect.width newAvailCellIdxRect.width h.validCellIdxRect.height.toNat
    srcCellOffset destCellOffset newMapDat))

def growTo32 (alloc : ℕ → Bool) (h : ServerMapHolder F) (cellIdxRect : RectangleI) :
    Except Halt (RectangleI × List UInt8) := do
  let newAvailCellIdxRect ← sfMergeCellIdxRect32 h.availCellIdxRect cellIdxRect
  let newAvailCellIdxRect ← sfCalcAdjustedCellIdxRect32 newAvailCellIdxRect
  let newMapDat ← allocZero32 alloc (mul32 newAvailCellIdxRect.width newAvailCellIdxRect.height)
  if sfIsCellIdxRectEmpty h.validCellIdxRect then
    return (newAvailCellIdxRect, newMapDat)
  let newMapDat ← copyValidCells32 h newAvailCellIdxRect newMapDat
  return (newAvailCellIdxRect, newMapDat)

def reserveByCellIdxRect32 (alloc : ℕ → Bool) (cellIdxRect : RectangleI) : HolderM32 F Unit := do
  if sfIsCellIdxRectEmpty cellIdxRect then
    return ()
  let h ← get
  if ← ofExcept (sfDoesCellIdxRectContainRect32 h.availCellIdxRect cellIdxRect) then
    return ()
  let (newAvailCellIdxRect, newMapDat) ← ofExcept (growTo32 alloc h cellIdxRect)
  modify fun h => { h with availCellIdxRect := newAvailCellIdxRect }
  let availMapArea ← ofExcept (lift32 (sfCalcAreaByCellIdxRect h.resolution newAvailCellIdxRect))
  modify fun h => { h with availMapArea := availMapArea }
  modify fun h => { h with mapDat := newMapDat }

def reserveByArea32 (alloc : ℕ → Bool) (reqArea : RectangleF F) : HolderM32 F Unit := do
  if reqArea.empty then
    return ()
  let h ← get
  let minBoundingCellIdxRect ← ofExcept (sfCalcMinBoundingCellIdxRect32 h.resolution reqArea)
  reserveByCellIdxRect32 alloc minBoundingCellIdxRect

def extendedCellIdxRect32 (h : ServerMapHolder F) (cellIdxRectToUp : RectangleI) :
    Except Halt RectangleI := do
  let more := h.moreCellCntToExtend
  let avail := h.availCellIdxRect
  let tXMin ← int32If (cellIdxRectToUp.x < avail.x) (cellIdxRectToUp.x - more) avail.x
  let tYMin ← int32If (cellIdxRectToUp.y < avail.y) (cellIdxRectToUp.y - more) avail.y
  let upXEnd ← int32 (cellIdxRectToUp.x + cellIdxRectToUp.width)
  let availXEnd ← int32 (avail.x + avail.width)
  let tXEnd ← int32If (availXEnd < upXEnd) (upXEnd + more) availXEnd
  let upYEnd ← int32 (cellIdxRectToUp.y + cellIdxRectToUp.height)
  let availYEnd ← int32 (avail.y + avail.height)
  let tYEnd ← int32If (availYEnd < upYEnd) (upYEnd + more) availYEnd
  boostAssert32 (tXMin < tXEnd) "tXMin < tXEnd"
  boostAssert32 (tYMin < tYEnd) "tYMin < tYEnd"
  let width ← int32 (tXEnd - tXMin)
  let height ← int32 (tYEnd - tYMin)
  return ⟨tXMin, tYMin, width, height⟩

def checkToExtendMap32 (alloc : ℕ → Bool) (cellIdxRectToUp : RectangleI) : HolderM32 F Unit := do
  let h ← get
  ofExcept (boostAssert32 (0 ≤ h.moreCellCntToExtend) "0 <= moreCellCntToExtend_")
  ofExcept (boostAssert32 (0 ≤ h.availCellIdxRect.width) "0 <= availCellIdxRect_.width()")
  ofExcept (boostAssert32 (0 ≤ h.availCellIdxRect.height) "0 <= availCellIdxRect_.height()")
  if sfIsCellIdxRectEmpty cellIdxRectToUp then
    return ()
  if ← ofExcept (sfDoesCellIdxRectContainRect32 h.availCellIdxRect cellIdxRectToUp) then
    return ()
  let tCellIdxRect ← ofExcept (extendedCellIdxRect32 h cellIdxRectToUp)
  reserveByCellIdxRect32 alloc tCellIdxRect

/-! ## Writing -/

/-- A block that is about to be copied: the cells it is for, where its first cell goes in
the buffer, and where it is read. -/
structure Block where
  cellIdxRectToUp : RectangleI
  destCellOffset : ℤ
  srcDat : ℤ → Option UInt8

/-- The assertions of `setMapData` on the grown buffer. -/
def destCellOffset32 (h : ServerMapHolder F) (rectToUp : RectangleI) : Except Halt ℤ := do
  let destOffX ← int32 (rectToUp.x - h.availCellIdxRect.x)
  boostAssert32 (0 ≤ destOffX ∧ destOffX < h.availCellIdxRect.width)
    "0 <= destOffX && destOffX < availCellIdxRect_.width()"
  let destXEnd ← int32 (destOffX + rectToUp.width)
  boostAssert32 (destXEnd ≤ h.availCellIdxRect.width)
    "destOffX + dimensionX <= availCellIdxRect_.width()"
  let destOffY ← int32 (rectToUp.y - h.availCellIdxRect.y)
  boostAssert32 (0 ≤ destOffY ∧ destOffY < h.availCellIdxRect.height)
    "0 <= destOffY && destOffY < availCellIdxRect_.height()"
  let destYEnd ← int32 (destOffY + rectToUp.height)
  boostAssert32 (destYEnd ≤ h.availCellIdxRect.height)
    "destOffY + dimensionY <= availCellIdxRect_.height()"
  int32 (mul32 destOffY h.availCellIdxRect.width + destOffX)

/-- `setMapData` up to the row loop; there is no loop for a dimension below 1.  A null
pointer is `none`. -/
def beginSetMapData32 (alloc : ℕ → Bool) (x y resolution : F) (dimensionX dimensionY : ℤ)
    (srcDat : Option (ℤ → Option UInt8)) : HolderM32 F (Option Block) :=
  if dimensionX < 1 ∨ dimensionY < 1 then return none
  else
    match srcDat with
    | none => throw (.exn (.assertion "nullptr != srcDat"))
    | some srcDat => do
        let h ← get
        ofExcept (lift32 (sfCheckResolutionEquality resolution h.resolution))
        let cellX ← ofExcept (int32 (FloatArith.round (FloatArith.div x h.resolution)))
        let cellY ← ofExcept (int32 (FloatArith.round (FloatArith.div y h.resolution)))
        let rectToUp := ⟨cellX, cellY, dimensionX, dimensionY⟩
        checkToExtendMap32 alloc rectToUp
        let h ← get
        let destCellOffset ← ofExcept (destCellOffset32 h rectToUp)
        return some ⟨rectToUp, destCellOffset, srcDat⟩

/-- The row loop of `setMapData` and what follows it. -/
def copyBlock32 : Option Block → HolderM32 F Unit
  | none => return ()
  | some ⟨rectToUp, destCellOffset, srcDat⟩ => do
      let h ← get
      let mapDat ← ofExcept (lift32 (inBuffer (copyRows id srcDat rectToUp.width.toNat
        rectToUp.width h.availCellIdxRect.width rectToUp.height.toNat 0 destCellOffset h.mapDat)))
      modify fun h => { h with mapDat := mapDat }
      let validCellIdxRect ← ofExcept (sfMergeCellIdxRect32 h.validCellIdxRect rectToUp)
      modify fun h => { h with validCellIdxRect := validCellIdxRect }
      let validMapArea ← ofExcept (lift32 (sfCalcAreaByCellIdxRect h.resolution validCellIdxRect))
      modify fun h => { h with validMapArea := validMapArea }

def setMapData32 (alloc : ℕ → Bool) (x y resolution : F) (dimensionX dimensionY : ℤ)
    (srcDat : Option (ℤ → Option UInt8)) : HolderM32 F Unit := do
  copyBlock32 (← beginSetMapData32 alloc x y resolution dimensionX dimensionY srcDat)

/-- `data()` of an empty vector is taken to be null. -/
def dataPointer (mapData : List UInt8) : Option (ℤ → Option UInt8) :=
  if mapData.isEmpty then none else some (ofList mapData)

/-- The overload for a map of the platform, up to the row loop. -/
def beginSetMapDataOfMap32 (alloc : ℕ → Bool) (m : MapData F) : HolderM32 F (Option Block) :=
  if !FloatArith.fequal m.mapResolution.1 m.mapResolution.2 then
    throw (.exn (.runtimeError "map resolution is different on x and y."))
  else if wrap m.mapData.length < mul32 m.mapDimension.1 m.mapDimension.2 then
    throw (.exn (.runtimeError "map data size is less than (dimensionX * dimensionY)."))
  else beginSetMapData32 alloc m.mapPosition.1 m.mapPosition.2 m.mapResolution.1
    m.mapDimension.1 m.mapDimension.2 (dataPointer m.mapData)

def setMapDataOfMap32 (alloc : ℕ → Bool) : Map F → HolderM32 F Unit
  | none => return ()
  | some m => do copyBlock32 (← beginSetMapDataOfMap32 alloc m)

/-! ## Reading -/

/-- The product of the two unsigned sides, and what `resize` makes of it. -/
def resizeData32 (alloc : ℕ → Bool) (width height : ℤ) : Except Halt (List Int8) :=
  let destDatSize := (wrapU (wrapU width * wrapU height)).toNat
  if alloc destDatSize then .ok (List.replicate destDatSize (-1)) else .error (.exn .badAlloc)

def fillCells32 (h : ServerMapHolder F) (resIdxRect intersecRect : RectangleI)
    (data : List Int8) : Except Halt (List Int8) := do
  let srcOffsetX ← int32 (intersecRect.x - h.availCellIdxRect.x)
  let srcOffsetY ← int32 (intersecRect.y - h.availCellIdxRect.y)
  let srcRowOffset ← int32 (mul32 srcOffsetY h.availCellIdxRect.width + srcOffsetX)
  let destOffsetX ← int32 (intersecRect.x - resIdxRect.x)
  let destOffsetY ← int32 (intersecRect.y - resIdxRect.y)
  let destRowOffset ← int32 (mul32 destOffsetY resIdxRect.width + destOffsetX)
  lift32 (inBuffer (copyRows toOccupancy (ofList h.mapDat) intersecRect.width.toNat
    h.availCellIdxRect.width resIdxRect.width intersecRect.height.toNat srcRowOffset
    destRowOffset data))

def fillRosMapMsg32 (alloc : ℕ → Bool) (h : ServerMapHolder F) (reqIdxRect : RectangleI) :
    Except Halt (RectangleI × GetMapResponse F) := do
  let resArea ← lift32 (sfCalcAreaByCellIdxRect h.resolution reqIdxRect)
  let intersecRect ← sfIntersectionOfCellIdxRect32 h.validCellIdxRect reqIdxRect
  let msgMap : GetMapResponse F := ⟨h.resolution, resArea.x, resArea.y, 0, 0, []⟩
  if sfIsCellIdxRectEmpty reqIdxRect then
    return (reqIdxRect, msgMap)
  let width := (wrapU reqIdxRect.width).toNat
  let height := (wrapU reqIdxRect.height).toNat
  let data ← resizeData32 alloc reqIdxRect.width reqIdxRect.height
  let data ← if sfIsCellIdxRectEmpty intersecRect then .ok data
    else fillCells32 h reqIdxRect intersecRect data
  return (reqIdxRect, { msgMap with width := width, height := height, data := data })

end ServerMapHolder

/-! ## Calls -/

section Calls

variable {F : Type} [FloatArith F]

def HolderCall.exec32 (alloc : ℕ → Bool) : HolderCall F → HolderM32 F Unit
  | clear => liftHolder ServerMapHolder.clear
  | reinit resolution => liftHolder (ServerMapHolder.reinit resolution)
  | setMoreCellCountToExtend n => liftHolder (ServerMapHolder.setMoreCellCountToExtend n)
  | reserveByCellIdxRect r => ServerMapHolder.reserveByCellIdxRect32 alloc r
  | reserveByArea a => ServerMapHolder.reserveByArea32 alloc a
  | setMapData x y resolution dimX dimY srcDat =>
      ServerMapHolder.setMapData32 alloc x y resolution dimX dimY
        (some fun i => some (srcDat i.toNat))
  | setMapDataOfMap hMap => ServerMapHolder.setMapDataOfMap32 alloc hMap

/-- The holders that calls lead to, as long as every call meets the condition.  A call
that throws is caught; a fault ends the run. -/
inductive Reachable32 (C : (ℕ → Bool) → HolderCall F → ServerMapHolder F → Prop) :
    ServerMapHolder F → Prop
  | new : Reachable32 C ServerMapHolder.new
  | returned {h h' : ServerMapHolder F} {alloc : ℕ → Bool} {call : HolderCall F} :
      Reachable32 C h → C alloc call h → (call.exec32 alloc).run h = .ok () h' → Reachable32 C h'
  | threw {h h' : ServerMapHolder F} {alloc : ℕ → Bool} {call : HolderCall F} {e : Halt} :
      Reachable32 C h → C alloc call h → (call.exec32 alloc).run h = .error e h' →
        e.isFault = false → Reachable32 C h'

end Calls

end Ros2WsDemo

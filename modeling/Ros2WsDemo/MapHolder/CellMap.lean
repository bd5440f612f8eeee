import Ros2WsDemo.MapHolder.Holder

/-!
# The abstract explored map

What a holder is for: a partial map from cells to bytes, one resolution for all
of it.  There is no buffer and no rectangle here, so reserving room and the
growth padding do nothing.
-/

namespace Ros2WsDemo

open ServerMapHolder

structure CellMap (F : Type) where
  resolution : F
  cells : ℤ → ℤ → Option UInt8

namespace CellMap

variable {F : Type} [FloatArith F]

def init : CellMap F := ⟨FloatArith.resolution005, fun _ _ => none⟩

def erase (m : CellMap F) : CellMap F := { m with cells := fun _ _ => none }

/-- The cells of `rect` get the bytes of a row-major block. -/
def writeBlock (m : CellMap F) (rect : RectangleI) (src : ℤ → Option UInt8) : CellMap F :=
  { m with
    cells := fun x y =>
      if sfDoesCellIdxRectContain rect x y then src ((y - rect.y) * rect.width + (x - rect.x))
      else m.cells x y }

def writeMap (m : CellMap F) (hMap : MapData F) : CellMap F :=
  m.writeBlock (cellIdxRectToUp m.resolution hMap.mapPosition.1 hMap.mapPosition.2
    hMap.mapDimension.1 hMap.mapDimension.2) (StridedCopy.ofList hMap.mapData)

/-- What a call that returns does to the map.  A rectangle without cells is
written without effect. -/
def step (m : CellMap F) : HolderCall F → CellMap F
  | .clear => m.erase
  | .reinit resolution => { m.erase with resolution := resolution }
  | .setMoreCellCountToExtend _ => m
  | .reserveByCellIdxRect _ => m
  | .reserveByArea _ => m
  | .setMapData x y _ dimX dimY srcDat =>
      m.writeBlock (cellIdxRectToUp m.resolution x y dimX dimY) fun i => some (srcDat i.toNat)
  | .setMapDataOfMap none => m
  | .setMapDataOfMap (some hMap) => m.writeMap hMap

/-- How a cell is published. -/
def occupancy : Option UInt8 → Int8
  | none => -1
  | some b => if b = 0 then -1 else if b < 128 then 0 else 100

end CellMap

end Ros2WsDemo

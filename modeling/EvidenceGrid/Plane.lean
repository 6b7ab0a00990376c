import EvidenceGrid.Binary32.Whole

/-!
Points of the world, cells of a grid and moves between cells. Points are in
meters and follow binary32 arithmetic on each axis; cells count from the lower
left corner; offsets are exact whole moves and may be negative.
-/

set_option autoImplicit false

namespace EvidenceGrid

structure Point where
  x : Float32
  y : Float32
deriving DecidableEq, Inhabited

namespace Point

instance : Add Point := ⟨fun left right => ⟨left.x + right.x, left.y + right.y⟩⟩
instance : Sub Point := ⟨fun left right => ⟨left.x - right.x, left.y - right.y⟩⟩
instance : HMul Point Float32 Point := ⟨fun point factor => ⟨point.x * factor, point.y * factor⟩⟩
instance : HDiv Point Float32 Point := ⟨fun point unit => ⟨point.x / unit, point.y / unit⟩⟩

def zero : Point := ⟨0, 0⟩

def map (change : Float32 → Float32) (point : Point) : Point := ⟨change point.x, change point.y⟩

def isFinite (point : Point) : Bool := point.x.isFinite && point.y.isFinite

end Point

structure Point3 where
  x : Float32
  y : Float32
  z : Float32
deriving DecidableEq, Inhabited

namespace Point3

def ground (point : Point3) : Point := ⟨point.x, point.y⟩

def isFinite (point : Point3) : Bool :=
  point.x.isFinite && point.y.isFinite && point.z.isFinite

end Point3

def Point.atHeight (point : Point) (z : Float32) : Point3 := ⟨point.x, point.y, z⟩

/-- A move by whole cells, or a cell counted from anywhere. -/
structure Offset where
  x : Int
  y : Int
deriving DecidableEq, Inhabited, Repr

namespace Offset

instance : Add Offset := ⟨fun left right => ⟨left.x + right.x, left.y + right.y⟩⟩
instance : Sub Offset := ⟨fun left right => ⟨left.x - right.x, left.y - right.y⟩⟩

def zero : Offset := ⟨0, 0⟩

end Offset

structure Cell where
  x : UInt32
  y : UInt32
deriving DecidableEq, Inhabited, Repr

/-- The cell as a signed position. Coordinates from `2 ^ 31` on wrap to negative
ones; no map has sides that long. -/
def Cell.toOffset (cell : Cell) : Offset := ⟨cell.x.toInt32.toInt, cell.y.toInt32.toInt⟩

def Offset.toCell (offset : Offset) : Cell := ⟨UInt32.ofInt offset.x, UInt32.ofInt offset.y⟩

def Point.toCell (point : Point) : Cell := ⟨point.x.toUInt32, point.y.toUInt32⟩

/-- The whole parts of a point as a move, held to signed 32-bit numbers. -/
def Point.toOffset (point : Point) : Offset :=
  ⟨Binary32.toSigned point.x, Binary32.toSigned point.y⟩

/-- A rectangle of cells: the columns from `min.x` up to but not including
`max.x`, and the rows likewise. -/
structure Region where
  min : Cell
  max : Cell
deriving DecidableEq

def Region.isEmpty (region : Region) : Bool :=
  region.max.x ≤ region.min.x || region.max.y ≤ region.min.y

end EvidenceGrid

import EvidenceGrid.Fault
import EvidenceGrid.Binary32.Order

/-!
The lattice of a map: how many cells it has on each side, how wide a cell is,
and where its lower left corner lies in the world. Here are the checks a lattice
must pass, the way between world points and cells, and the whole-cell move that
brings the corner near a wanted place. Nothing here holds cell contents.
-/

set_option autoImplicit false

namespace EvidenceGrid

structure Lattice where
  width : UInt32
  height : UInt32
  /-- Meters per cell. -/
  resolution : Float32
  /-- The lower left corner of cell (0, 0). -/
  origin : Point
deriving DecidableEq

namespace Lattice

def standard : Lattice := ⟨200, 200, 0.5, .zero⟩

def square (side : UInt32) (resolution : Float32) : Lattice := ⟨side, side, resolution, .zero⟩

def cellLimit : Nat := 0x10000000

def area (lattice : Lattice) : Nat := lattice.width.toNat * lattice.height.toNat

/-- A usable lattice has cells on both sides, cells of a finite positive width,
and no more of them than the limit. The checks come in this order. -/
def validate (lattice : Lattice) : Except Fault Unit :=
  if lattice.width = 0 ∨ lattice.height = 0 then
    .error (.dimension (.noCells lattice.width lattice.height))
  else if !lattice.resolution.isFinite || lattice.resolution ≤ 0 then
    .error (.resolution lattice.resolution)
  else if cellLimit < lattice.area then
    .error (.dimension (.tooManyCells lattice.width lattice.height cellLimit))
  else .ok ()

def extent (lattice : Lattice) : Point :=
  ⟨lattice.width.toFloat32 * lattice.resolution, lattice.height.toFloat32 * lattice.resolution⟩

def center (lattice : Lattice) : Point :=
  lattice.origin + ⟨0.5 * lattice.extent.x, 0.5 * lattice.extent.y⟩

def contains (lattice : Lattice) (cell : Cell) : Bool :=
  cell.x < lattice.width && cell.y < lattice.height

def sameShape (left right : Lattice) : Bool :=
  left.width == right.width && left.height == right.height && left.resolution == right.resolution

theorem area_eq_of_sameShape {left right : Lattice} (alike : left.sameShape right) :
    left.area = right.area := by
  simp only [sameShape, Bool.and_eq_true, beq_iff_eq] at alike
  rw [area, area, alike.1.1, alike.1.2]

/-- The position of a cell in row-major order. -/
def index (lattice : Lattice) (cell : Cell) : Nat :=
  cell.y.toNat * lattice.width.toNat + cell.x.toNat

theorem index_lt_area {lattice : Lattice} {cell : Cell} (inside : lattice.contains cell) :
    lattice.index cell < lattice.area := by
  simp only [contains, Bool.and_eq_true, decide_eq_true_eq, UInt32.lt_iff_toNat_lt] at inside
  calc cell.y.toNat * lattice.width.toNat + cell.x.toNat
      < cell.y.toNat * lattice.width.toNat + lattice.width.toNat := by omega
    _ = (cell.y.toNat + 1) * lattice.width.toNat := by rw [Nat.succ_mul]
    _ ≤ lattice.height.toNat * lattice.width.toNat := Nat.mul_le_mul_right _ inside.2
    _ = lattice.area := Nat.mul_comm _ _

def cellAt (lattice : Lattice) (index : Nat) : Cell :=
  ⟨UInt32.ofNat (index % lattice.width.toNat), UInt32.ofNat (index / lattice.width.toNat)⟩

/-- The move from the corner to a wanted corner, in whole cells, however far. -/
def cellsTo (lattice : Lattice) (target : Point) : Point :=
  ((target - lattice.origin) / lattice.resolution).map Binary32.nearest

/-- The same move held on each axis to the map's own size, as binary32 has it. -/
def shiftTo (lattice : Lattice) (target : Point) : Offset :=
  let move := lattice.cellsTo target
  let columns := lattice.width.toFloat32
  let rows := lattice.height.toFloat32
  Point.toOffset
    ⟨Binary32.confine (-columns) columns move.x, Binary32.confine (-rows) rows move.y⟩

/-- The corner moved by the whole cells that bring it nearest to a wanted
corner. It is not finite when the move does not fit in binary32. -/
def snap (lattice : Lattice) (target : Point) : Point :=
  lattice.origin + lattice.cellsTo target * lattice.resolution

def inCells (lattice : Lattice) (point : Point) : Point :=
  (point - lattice.origin) / lattice.resolution

def cellOf (lattice : Lattice) (point : Point) : Except Fault Cell :=
  let place := (lattice.inCells point).map Binary32.floor
  if !place.isFinite || place.x < 0 || place.y < 0
      || lattice.width.toFloat32 ≤ place.x || lattice.height.toFloat32 ≤ place.y then
    .error (.pointOutside point)
  else .ok place.toCell

def outside (lattice : Lattice) (cell : Cell) : Fault :=
  .cellOutside cell lattice.width lattice.height

def centerOf (lattice : Lattice) (cell : Cell) : Except Fault Point :=
  if lattice.contains cell then
    let middle : Point := ⟨cell.x.toFloat32 + 0.5, cell.y.toFloat32 + 0.5⟩
    .ok (lattice.origin + middle * lattice.resolution)
  else .error (lattice.outside cell)

end Lattice

end EvidenceGrid

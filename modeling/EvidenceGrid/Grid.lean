import EvidenceGrid.Lattice
import EvidenceGrid.Grid.Runs

/-!
A grid of values over a lattice, stored row by row from the lower left corner.
The type ties the number of values to the lattice, so a cell that the lattice
contains always has a value. Whether the lattice itself is usable is checked
where grids are made and where their shape changes.
-/

set_option autoImplicit false

namespace EvidenceGrid

structure Grid (α : Type) where
  lattice : Lattice
  cells : Array α
  sized : cells.size = lattice.area
deriving DecidableEq

namespace Grid

variable {α : Type}

@[inline]
def ofCells (lattice : Lattice) (cells : Array α) : Except Fault (Grid α) := do
  lattice.validate
  if sized : cells.size = lattice.area then
    return { lattice, cells, sized }
  else
    throw (.dimension (.cellCount cells.size lattice.area))

/-- A grid over a usable lattice with one value in every cell. The values are laid out before
the lattice is checked, so for far too many cells memory may run out ahead of the fault. -/
def filled (lattice : Lattice) (value : α) : Except Fault (Grid α) :=
  ofCells lattice (Array.replicate lattice.area value)

theorem filled_eq (lattice : Lattice) (value : α) : filled lattice value = (do
    lattice.validate
    return { lattice, cells := Array.replicate lattice.area value
             sized := Array.size_replicate }) := by
  simp only [filled, ofCells, Array.size_replicate, dite_true]

def get (grid : Grid α) (cell : Cell) : Except Fault α :=
  if inside : grid.lattice.contains cell then
    have bound : grid.lattice.index cell < grid.cells.size :=
      grid.sized ▸ Lattice.index_lt_area inside
    .ok grid.cells[grid.lattice.index cell]
  else .error (grid.lattice.outside cell)

def modify (grid : Grid α) (cell : Cell) (change : α → α) : Except Fault (Grid α) :=
  if grid.lattice.contains cell then
    .ok { grid with
          cells := grid.cells.modify (grid.lattice.index cell) change
          sized := by rw [Array.size_modify, grid.sized] }
  else .error (grid.lattice.outside cell)

def set (grid : Grid α) (cell : Cell) (value : α) : Except Fault (Grid α) :=
  grid.modify cell fun _ => value

def toList (grid : Grid α) : List (Cell × α) :=
  grid.cells.toList.zipIdx.map fun (value, index) => (grid.lattice.cellAt index, value)

def moveTo (grid : Grid α) (origin : Point) : Grid α :=
  { grid with lattice := { grid.lattice with origin } }

def withCells (grid : Grid α) (cells : Array α) (same : cells.size = grid.cells.size) : Grid α :=
  { grid with cells, sized := same.trans grid.sized }

def fill (grid : Grid α) (value : α) : Grid α :=
  grid.withCells (Array.replicate grid.cells.size value) Array.size_replicate

def resize (grid : Grid α) (width height : UInt32) (resolution : Float32) (value : α) :
    Except Fault (Grid α) :=
  filled ⟨width, height, resolution, grid.lattice.origin⟩ value

def clip (lattice : Lattice) (region : Region) : Region :=
  { region with max := ⟨min region.max.x lattice.width, min region.max.y lattice.height⟩ }

/-- The runs of indices that make up a region, one for each of its rows, as
start and length. -/
def regionRuns (lattice : Lattice) (region : Region) : List (Nat × Nat) :=
  let clipped := clip lattice region
  if clipped.isEmpty then []
  else
    let length := clipped.max.x.toNat - clipped.min.x.toNat
    (List.range (clipped.max.y.toNat - clipped.min.y.toNat)).map fun row =>
      ((clipped.min.y.toNat + row) * lattice.width.toNat + clipped.min.x.toNat, length)

/-- The grid with one value in every cell of a region. Cells of the region that
are not on the lattice do not matter. -/
def fillRegion (grid : Grid α) (region : Region) (value : α) : Grid α :=
  grid.withCells
    ((regionRuns grid.lattice region).foldl
      (fun cells run => Runs.fill cells run.1 run.2 value) grid.cells)
    (Runs.size_foldl _ _ (fun _ _ => Runs.size_fill _ _ _ _) _)

end Grid

end EvidenceGrid

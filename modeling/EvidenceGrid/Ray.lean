import EvidenceGrid.Grid
import EvidenceGrid.Segment
import EvidenceGrid.Occupancy

/-!
Casting rays into the grid of a single frame. A ray frees every cell between the
sensor and the echo, both included, and an echo from an obstacle occupies the
cell it lies in. Occupied cells are never taken back, so the cells do not depend
on the order of the rays; the tally of freed cells does.
-/

set_option autoImplicit false

namespace EvidenceGrid

structure Echo where
  point : Point
  obstacle : Bool
deriving DecidableEq

/-- The echoes of two clouds: all returns first, each clearing the space up to
and including its end, then the obstacles, which occupy their end as well. -/
def Echo.ofClouds (raw obstacle : List Point3) : List Echo :=
  raw.map (fun point => ⟨point.ground, false⟩) ++ obstacle.map (fun point => ⟨point.ground, true⟩)

structure RayTally where
  cast : Nat := 0
  /-- Echoes left out because they or the sensor are not on the grid. -/
  skipped : Nat := 0
  freed : Nat := 0
  /-- Cells that were turned occupied, counting those turned free before. -/
  occupied : Nat := 0
deriving DecidableEq, Repr

namespace RayTally

instance : Add RayTally :=
  ⟨fun left right =>
    { cast := left.cast + right.cast
      skipped := left.skipped + right.skipped
      freed := left.freed + right.freed
      occupied := left.occupied + right.occupied }⟩

def record (tally : RayTally) : Occupancy → RayTally
  | .unknown => tally
  | .free => { tally with freed := tally.freed + 1 }
  | .occupied => { tally with occupied := tally.occupied + 1 }

end RayTally

namespace Grid

/-- One observation noted in one cell and counted when it changes the cell. A
cell that is not on the grid takes no note. -/
def note (grid : Grid Occupancy) (tally : RayTally) (cell : Cell) (seen : Occupancy) :
    Grid Occupancy × RayTally :=
  if inside : grid.lattice.contains cell then
    have bound : grid.lattice.index cell < grid.cells.size :=
      grid.sized ▸ Lattice.index_lt_area inside
    let (after, changed) := grid.cells[grid.lattice.index cell].mark seen
    if changed then
      ({ grid with
          cells := grid.cells.set (grid.lattice.index cell) after
          sized := by rw [Array.size_set, grid.sized] },
        tally.record after)
    else (grid, tally)
  else (grid, tally)

def seenAt (goal : Offset) (obstacle : Bool) (cell : Offset) : Occupancy :=
  if obstacle && cell = goal then .occupied else .free

def castRay (grid : Grid Occupancy) (start goal : Cell) (obstacle : Bool) :
    Grid Occupancy × RayTally :=
  (Segment.cells start.toOffset goal.toOffset).foldl
    (fun (grid, tally) cell => grid.note tally cell.toCell (seenAt goal.toOffset obstacle cell))
    (grid, { cast := 1 })

/-- The rays of all echoes, from one sensor. When the sensor is not on the grid
every echo is skipped. -/
def castFrame (grid : Grid Occupancy) (sensor : Point) (echoes : List Echo) :
    Grid Occupancy × RayTally :=
  match grid.lattice.cellOf sensor with
  | .error _ => (grid, { skipped := echoes.length })
  | .ok start =>
    echoes.foldl
      (fun (grid, tally) echo =>
        match grid.lattice.cellOf echo.point with
        | .error _ => (grid, tally + { skipped := 1 })
        | .ok goal =>
          let (grid, ray) := grid.castRay start goal echo.obstacle
          (grid, tally + ray))
      (grid, {})

def ofEchoes (lattice : Lattice) (sensor : Point) (echoes : List Echo) :
    Except Fault (Grid Occupancy × RayTally) := do
  return (← filled lattice .unknown).castFrame sensor echoes

end Grid

end EvidenceGrid

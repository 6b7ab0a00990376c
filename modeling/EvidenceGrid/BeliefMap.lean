import EvidenceGrid.Grid.Roll
import EvidenceGrid.SensorModel

/-!
The map that persists from frame to frame: a rolling grid of beliefs and the
model that revises it. Taking in a frame first rolls the window to the frame's
corner and then revises each cell by what the frame saw there. The frame has to
have the map's own shape; where it lies is taken from it.
-/

set_option autoImplicit false

namespace EvidenceGrid

structure BeliefMap where
  model : SensorModel
  grid : Grid Belief
deriving DecidableEq

structure FusionTally where
  /-- The window's move before the cells were revised. -/
  shift : Offset
  occupied : Nat
  free : Nat
deriving DecidableEq, Repr

namespace BeliefMap

def ofGrid (grid : Grid Belief) (model : SensorModel) : Except Fault BeliefMap := do
  model.validate
  return { model, grid }

def empty (lattice : Lattice) (model : SensorModel) : Except Fault BeliefMap := do
  ofGrid (← Grid.filled lattice .unknown) model

def reviseCells (model : SensorModel) (grid : Grid Belief) (seen : Array Occupancy)
    (same : seen.size = grid.lattice.area) : Except Fault (Grid Belief) := do
  let cells : Vector Belief grid.lattice.area := ⟨grid.cells, grid.sized⟩
  let observations : Vector Occupancy grid.lattice.area := ⟨seen, same⟩
  let revised ← (cells.zip observations).mapM fun (prior, observed) => model.revise prior observed
  return { grid with cells := revised.toArray, sized := revised.size_toArray }

/-- The map after one frame. A refused frame leaves the map it was offered to as
it was, because nothing is revised before every check has passed. -/
def update (map : BeliefMap) (frame : Grid Occupancy) : Except Fault (BeliefMap × FusionTally) :=
  if alike : frame.lattice.sameShape map.grid.lattice then
    match rolled : map.grid.rollTo frame.lattice.origin .unknown with
    | .error fault => .error fault
    | .ok (grid, shift) => do
      let grid ← reviseCells map.model grid frame.cells <| by
        rw [frame.sized, Lattice.area_eq_of_sameShape alike, Grid.area_of_rollTo rolled]
      return ({ map with grid },
        { shift
          occupied := frame.cells.count .occupied
          free := frame.cells.count .free })
  else
    .error (.shape (.frame frame.lattice.width frame.lattice.height frame.lattice.resolution
      map.grid.lattice.width map.grid.lattice.height map.grid.lattice.resolution))

def reset (map : BeliefMap) : BeliefMap := { map with grid := map.grid.fill .unknown }

def stateOf (map : BeliefMap) (cell : Cell) : Except Fault Occupancy :=
  (map.grid.get cell).map map.model.classify

end BeliefMap

end EvidenceGrid

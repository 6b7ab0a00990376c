import EvidenceGrid.Grid

/-!
Rolling a grid over the world: its window moves by whole cells, cells covered
before and after keep their values, and cells that enter take a given one. The
new contents are built beside the old ones, row by row, so no step reads a cell
that an earlier step wrote.
-/

set_option autoImplicit false

namespace EvidenceGrid.Grid

variable {α : Type}

/-- One row of the part that stays in the window: where it goes, where it comes
from and how long it is. Positions are exact, so that leaving the range of a
machine number would show. -/
structure RowMove where
  target : Int
  source : Int
  length : Int
deriving DecidableEq, Repr

def within (side value : Int) : Int := max 0 (min value side)

/-- The rows that stay when the window moves by a shift. The cell at `(x, y)` of
the new window covers the ground of the old cell at `(x + shift.x, y + shift.y)`. -/
def rowMoves (lattice : Lattice) (shift : Offset) : List RowMove :=
  let width : Int := lattice.width.toNat
  let height : Int := lattice.height.toNat
  let left := within width (-shift.x)
  let right := within width (width - shift.x)
  let bottom := within height (-shift.y)
  let top := within height (height - shift.y)
  if left < right then
    (List.range (top - bottom).toNat).map fun (step : Nat) =>
      let row := bottom + (step : Int)
      { target := row * width + left
        source := (row + shift.y) * width + left + shift.x
        length := right - left }
  else []

def shifted (grid : Grid α) (shift : Offset) (entering : α) : Array α :=
  (rowMoves grid.lattice shift).foldl
    (fun cells move =>
      Runs.copy cells grid.cells move.target.toNat move.source.toNat move.length.toNat)
    (Array.replicate grid.cells.size entering)

theorem size_shifted (grid : Grid α) (shift : Offset) (entering : α) :
    (grid.shifted shift entering).size = grid.cells.size :=
  (Runs.size_foldl _ _ (fun _ _ => Runs.size_copy _ _ _ _ _) _).trans Array.size_replicate

/-- The grid with its corner brought to the lattice position nearest to a wanted
corner, and the shift that was applied. A corner that has no finite position on
the lattice is refused; a move of no cell leaves even the corner as it is. -/
def rollTo (grid : Grid α) (origin : Point) (entering : α) : Except Fault (Grid α × Offset) :=
  let corner := grid.lattice.snap origin
  if !corner.isFinite then .error (.geometry (.originNotFinite origin))
  else
    let shift := grid.lattice.shiftTo origin
    if shift = .zero then .ok (grid, shift)
    else
      .ok ((grid.withCells (grid.shifted shift entering) (grid.size_shifted shift entering)).moveTo
        corner, shift)

theorem area_of_rollTo {grid rolled : Grid α} {origin : Point} {entering : α} {shift : Offset}
    (run : grid.rollTo origin entering = .ok (rolled, shift)) :
    rolled.lattice.area = grid.lattice.area := by
  simp only [rollTo] at run
  split at run
  · cases run
  · split at run <;> (cases run; rfl)

end EvidenceGrid.Grid

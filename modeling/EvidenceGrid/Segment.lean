import EvidenceGrid.Plane

/-!
The cells on a straight segment between two cells, both ends included. A tracer
walks from one end to the other by an error term of whole numbers only: twice
the error is compared with the extents on both axes, and each comparison that
holds makes a step on one axis. A tracer is a value, so a walk can be restarted
from any point of it. The arithmetic is exact; that it fits machine numbers for
the cells of one map is a separate matter.
-/

set_option autoImplicit false

namespace EvidenceGrid

structure Tracer where
  cell : Offset
  goal : Offset
  /-- The extent along x, and the extent along y with a minus sign. -/
  extent : Offset
  step : Offset
  error : Int
  finished : Bool
deriving DecidableEq, Repr

namespace Tracer

def along (start goal : Offset) : Tracer :=
  let extent : Offset := ⟨(goal.x - start.x).natAbs, -(goal.y - start.y).natAbs⟩
  { cell := start
    goal
    extent
    step := ⟨if start.x < goal.x then 1 else -1, if start.y < goal.y then 1 else -1⟩
    error := extent.x + extent.y
    finished := false }

def between (start goal : Cell) : Tracer := along start.toOffset goal.toOffset

/-- The tracer moved on to the next cell. Both tests look at the error as it was
before either of them changes it. -/
def advance (tracer : Tracer) : Tracer :=
  let doubled := 2 * tracer.error
  let alongX := tracer.extent.y ≤ doubled
  let alongY := doubled ≤ tracer.extent.x
  { tracer with
    cell :=
      ⟨if alongX then tracer.cell.x + tracer.step.x else tracer.cell.x,
        if alongY then tracer.cell.y + tracer.step.y else tracer.cell.y⟩
    error := tracer.error + (if alongX then tracer.extent.y else 0) +
      (if alongY then tracer.extent.x else 0) }

/-- The cell a tracer stands on and the tracer after it. The goal is given once
and nothing after it. -/
def next? (tracer : Tracer) : Option (Offset × Tracer) :=
  if tracer.finished then none
  else if tracer.cell = tracer.goal then some (tracer.cell, { tracer with finished := true })
  else some (tracer.cell, tracer.advance)

def take : Nat → Tracer → List Offset × Tracer
  | 0, tracer => ([], tracer)
  | count + 1, tracer =>
    match tracer.next? with
    | none => ([], tracer)
    | some (cell, rest) =>
      let (cells, last) := take count rest
      (cell :: cells, last)

end Tracer

namespace Segment

/-- The number of cells on a segment: one more than its longer extent. -/
def count (start goal : Offset) : Nat :=
  max (goal.x - start.x).natAbs (goal.y - start.y).natAbs + 1

def cells (start goal : Offset) : List Offset :=
  ((Tracer.along start goal).take (count start goal)).1

end Segment

end EvidenceGrid

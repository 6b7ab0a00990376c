import EvidenceGrid.Proofs.Lattice.Center
import EvidenceGrid.Proofs.Ray.Tally

/-!
Where rays start and end. The cell of a point is one of the map, also where its sides are longer
after rounding, and is named by the whole parts of the point's place in cells. Whatever is not
finite on the way there, and each point off the map, is refused. So a frame casts its rays between
cells of its grid only, whatever its size and its echoes are.
-/

set_option autoImplicit false

namespace EvidenceGrid

open Binary32

namespace Lattice

variable {lattice : Lattice} {point : Point} {cell : Cell}

theorem finite_of_in_cells (finite : (lattice.inCells point).isFinite = true) :
    point.isFinite = true ∧ lattice.origin.isFinite = true := by
  obtain ⟨xFinite, yFinite⟩ := (finite_iff _).mp finite
  have column := finite_operands_of_sub (finite_dividend_of_div xFinite)
  have row := finite_operands_of_sub (finite_dividend_of_div yFinite)
  exact ⟨(finite_iff _).mpr ⟨column.1, row.1⟩, (finite_iff _).mpr ⟨column.2, row.2⟩⟩

theorem cell_of_found (found : lattice.cellOf point = .ok cell) :
    (lattice.inCells point).isFinite = true ∧ lattice.contains cell = true ∧
      ⌊number (lattice.inCells point).x⌋ = cell.x.toNat ∧
      ⌊number (lattice.inCells point).y⌋ = cell.y.toNat := by
  obtain ⟨column, row⟩ := (cell_of_eq_ok_iff lattice point cell).mp found
  have xFinite := finite_of_floor column.1.1
  have yFinite := finite_of_floor row.1.1
  exact ⟨(finite_iff _).mpr ⟨xFinite, yFinite⟩, (cell_of_ok found).2,
    ((axis_finds_iff xFinite).mp column).1, ((axis_finds_iff yFinite).mp row).1⟩

theorem cell_of_not_finite (infinite : (lattice.inCells point).isFinite = false) :
    lattice.cellOf point = .error (.pointOutside point) := by
  cases result : lattice.cellOf point with
  | ok cell =>
      rw [(cell_of_found result).1] at infinite
      cases infinite
  | error fault => rw [cell_of_error result]

end Lattice

namespace Grid

/-- The rays of all echoes, which fail at the first ray that does not start and end in cells of
the grid. -/
def castFrameStrictly (grid : Grid Occupancy) (sensor : Point) (echoes : List Echo) :
    Except Fault (Grid Occupancy × RayTally) :=
  match grid.lattice.cellOf sensor with
  | .error _ => .ok (grid, { skipped := echoes.length })
  | .ok start =>
    echoes.foldlM
      (fun (grid, tally) echo =>
        match grid.lattice.cellOf echo.point with
        | .error _ => .ok (grid, tally + { skipped := 1 })
        | .ok goal => do
          let _ ← grid.get start
          let _ ← grid.get goal
          let (grid, ray) := grid.castRay start goal echo.obstacle
          return (grid, tally + ray))
      (grid, {})

theorem cast_frame_strictly (grid : Grid Occupancy) (sensor : Point) (echoes : List Echo) :
    grid.castFrameStrictly sensor echoes = .ok (grid.castFrame sensor echoes) := by
  rw [castFrameStrictly, castFrame]
  cases found : grid.lattice.cellOf sensor with
  | error fault => rfl
  | ok start =>
      have startInside := (Lattice.cell_of_found found).2.1
      generalize stateIs : (grid, ({} : RayTally)) = state
      have same : state.1.lattice = grid.lattice := by rw [← stateIs]
      clear stateIs
      simp only
      induction echoes generalizing state with
      | nil => rfl
      | cons echo rest ih =>
          obtain ⟨current, tally⟩ := state
          simp only at same
          rw [List.foldlM_cons, List.foldl_cons]
          simp only [same]
          cases aimed : grid.lattice.cellOf echo.point with
          | error fault => exact ih (current, tally + { skipped := 1 }) same
          | ok goal =>
              have goalInside := (Lattice.cell_of_found aimed).2.1
              rw [← same] at startInside goalInside
              simp only [get_eq_state_at startInside, get_eq_state_at goalInside]
              exact ih _ ((lattice_cast_ray _ _ _ _).trans same)

end Grid

namespace Lattice

/-- A point is counted to a cell of the map, the one that the whole parts of its place name, or to
none. This is so for sides of every size and every corner: a point that is not finite or too far
from the corner is refused, and where the corner is not finite every point is. A frame therefore
casts each of its rays between two cells of its grid. -/
theorem found_cell_inside :
    (∀ (lattice : Lattice) (point : Point) (cell : Cell), lattice.cellOf point = .ok cell →
      lattice.contains cell = true ∧ ⌊number (lattice.inCells point).x⌋ = cell.x.toNat ∧
        ⌊number (lattice.inCells point).y⌋ = cell.y.toNat) ∧
    (∀ (lattice : Lattice) (point : Point),
      point.isFinite = false ∨ lattice.origin.isFinite = false ∨
          (lattice.inCells point).isFinite = false →
        lattice.cellOf point = .error (.pointOutside point)) ∧
    ∀ (grid : Grid Occupancy) (sensor : Point) (echoes : List Echo),
      grid.castFrameStrictly sensor echoes = .ok (grid.castFrame sensor echoes) := by
  refine ⟨fun lattice point cell found => (cell_of_found found).2, fun lattice point special => ?_,
    Grid.cast_frame_strictly⟩
  apply cell_of_not_finite
  rw [← Bool.not_eq_true]
  intro finite
  obtain ⟨pointFinite, originFinite⟩ := finite_of_in_cells finite
  simp [pointFinite, originFinite, finite] at special

/-- A row that rounding makes one cell longer, up to the last cell that a point can have there; and
a corner that is not finite. -/
theorem found_cell_inside_long_row :
    let long : Lattice := ⟨16777219, 1, 1, .zero⟩
    let lost : Lattice := ⟨16777219, 1, 1, ⟨1 / 0, 0⟩⟩
    long.validate = .ok () ∧ lost.validate = .ok () ∧
      long.width.toFloat32 = 16777220 ∧ long.cellOf ⟨16777218, 0⟩ = .ok ⟨16777218, 0⟩ ∧
      long.contains ⟨16777218, 0⟩ = true ∧
      lost.cellOf ⟨1 / 0, 0⟩ = .error (.pointOutside ⟨1 / 0, 0⟩) := by
  intro long lost
  have found : long.cellOf ⟨16777218, 0⟩ = .ok ⟨16777218, 0⟩ := by decide +kernel
  obtain ⟨cells, others, -⟩ := found_cell_inside
  exact ⟨by decide +kernel, by decide +kernel, by decide +kernel, found,
    (cells long _ _ found).1, others lost ⟨1 / 0, 0⟩ (Or.inl (by decide +kernel))⟩

end Lattice

end EvidenceGrid

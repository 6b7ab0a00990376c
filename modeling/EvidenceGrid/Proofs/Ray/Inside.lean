import EvidenceGrid.Proofs.Ray.Tally
import EvidenceGrid.Proofs.Segment.Ideal

/-!
A ray between two cells of a grid stays on the grid. The signed positions of its ends do not
wrap, its walk keeps to the box between them, and the longest row that a grid may have leaves
room in the words for every number of the walk. So nothing that a ray does can fail, and it
changes the cells on its line only.
-/

set_option autoImplicit false

namespace EvidenceGrid

namespace Lattice

variable {lattice : Lattice} {start goal : Cell}

theorem near_to_offset (usable : lattice.Usable) {cell : Cell}
    (inside : lattice.contains cell = true) : Segment.Near cell.toOffset := by
  obtain ⟨columns, rows⟩ := sides_bounded usable
  obtain ⟨⟨left, right⟩, bottom, top⟩ := (contains_iff_covers lattice cell).mp inside
  rw [to_offset_eq_place usable inside]
  constructor <;> omega

theorem walk_fits (usable : lattice.Usable) (startInside : lattice.contains start = true)
    (goalInside : lattice.contains goal = true) (asked : Nat) :
    ((Tracer.between start goal).take asked).2.Fits :=
  Segment.fits_of_take (near_to_offset usable startInside) (near_to_offset usable goalInside) asked

theorem cell_of_given (usable : lattice.Usable) (startInside : lattice.contains start = true)
    (goalInside : lattice.contains goal = true) {place : Offset}
    (given : (Tracer.between start goal).Gives place) :
    lattice.contains place.toCell = true ∧ place.toCell.toOffset = place := by
  have member := Segment.gives_iff_mem_cells.mp given
  have covers := Grid.covers_of_mem_cells usable startInside goalInside member
  have held := contains_to_cell covers
  refine ⟨held, ?_⟩
  rw [to_offset_eq_place usable held]
  exact ((to_cell_eq_iff covers).mp rfl).symm

end Lattice

namespace Grid

def noteStrictly (grid : Grid Occupancy) (tally : RayTally) (cell : Cell) (seen : Occupancy) :
    Except Fault (Grid Occupancy × RayTally) := do
  let _ ← grid.get cell
  return grid.note tally cell seen

def castRayStrictly (grid : Grid Occupancy) (start goal : Cell) (obstacle : Bool) :
    Except Fault (Grid Occupancy × RayTally) :=
  (Segment.cells start.toOffset goal.toOffset).foldlM
    (fun (grid, tally) cell =>
      grid.noteStrictly tally cell.toCell (seenAt goal.toOffset obstacle cell))
    (grid, { cast := 1 })

/-- What a ray between two cells computes, visits and changes. -/
structure StaysInside (grid : Grid Occupancy) (start goal : Cell) (obstacle : Bool) : Prop where
  ends : start.toOffset = start.place ∧ goal.toOffset = goal.place
  words : ∀ asked, ((Tracer.between start goal).take asked).2.Fits
  ended : ((Tracer.between start goal).take
    (Segment.count start.toOffset goal.toOffset)).2.next? = none
  visited : ∀ place, (Tracer.between start goal).Gives place →
    grid.lattice.contains place.toCell = true ∧ place.toCell.toOffset = place
  strict : grid.castRayStrictly start goal obstacle = .ok (grid.castRay start goal obstacle)
  lattice_eq : (grid.castRay start goal obstacle).1.lattice = grid.lattice
  beside : ∀ cell, ¬(Tracer.between start goal).Gives cell.toOffset →
    (grid.castRay start goal obstacle).1.get cell = grid.get cell
  along : ∀ cell, grid.lattice.contains cell = true →
    (Tracer.between start goal).Gives cell.toOffset → ∃ before, grid.get cell = .ok before ∧
      (grid.castRay start goal obstacle).1.get cell =
        .ok (before.join (seenAt goal.toOffset obstacle cell.toOffset))

variable {grid : Grid Occupancy} {start goal cell : Cell} {obstacle : Bool}

theorem foldlM_note_strictly {lattice : Lattice} {places : List Offset} (seen : Offset → Occupancy)
    (held : ∀ place ∈ places, lattice.contains place.toCell = true)
    (state : Grid Occupancy × RayTally) (same : state.1.lattice = lattice) :
    places.foldlM (fun state place => state.1.noteStrictly state.2 place.toCell (seen place))
        state =
      .ok (places.foldl (fun state place => state.1.note state.2 place.toCell (seen place))
        state) := by
  induction places generalizing state with
  | nil => rfl
  | cons place rest ih =>
      have inside : state.1.lattice.contains place.toCell = true := by
        rw [same]
        exact held place List.mem_cons_self
      rw [List.foldlM_cons, noteStrictly, get_eq_state_at inside]
      exact ih (fun other member => held other (List.mem_cons_of_mem _ member)) _
        ((lattice_note _ _ _ _).trans same)

theorem get_cast_ray (held : grid.lattice.contains cell = true) :
    (grid.castRay start goal obstacle).1.get cell =
      .ok ((grid.castRay start goal obstacle).1.stateAt cell) := by
  apply get_eq_state_at
  rwa [lattice_cast_ray]

theorem get_beside_ray (usable : grid.lattice.Usable)
    (startInside : grid.lattice.contains start = true)
    (goalInside : grid.lattice.contains goal = true)
    (aside : ¬(Tracer.between start goal).Gives cell.toOffset) :
    (grid.castRay start goal obstacle).1.get cell = grid.get cell := by
  by_cases held : grid.lattice.contains cell = true
  · rw [get_cast_ray held, get_eq_state_at held]
    congr 1
    apply Occupancy.eq_of_levels
    intro level
    rw [(marks_cast_ray usable startInside goalInside obstacle).le_iff cell held level]
    exact or_iff_left fun shown => aside shown.1
  · have kept := lattice_cast_ray grid start goal obstacle
    rw [get, get, dif_neg held, dif_neg (by rwa [kept]), kept]

theorem get_along_ray (usable : grid.lattice.Usable)
    (startInside : grid.lattice.contains start = true)
    (goalInside : grid.lattice.contains goal = true) (held : grid.lattice.contains cell = true)
    (met : (Tracer.between start goal).Gives cell.toOffset) :
    (grid.castRay start goal obstacle).1.get cell =
      .ok ((grid.stateAt cell).join (seenAt goal.toOffset obstacle cell.toOffset)) := by
  rw [get_cast_ray held]
  congr 1
  apply Occupancy.eq_of_levels
  intro level
  rw [(marks_cast_ray usable startInside goalInside obstacle).le_iff cell held level,
    Occupancy.le_join_iff]
  exact or_congr_right (and_iff_right met)

/-- A ray between two cells of a grid computes words only, meets cells of the grid only, so that
no access fails, and changes nothing but the cells on its line. -/
theorem ray_stays_inside (usable : grid.lattice.validate = .ok ())
    (startInside : grid.lattice.contains start = true)
    (goalInside : grid.lattice.contains goal = true) (obstacle : Bool) :
    StaysInside grid start goal obstacle := by
  rw [Lattice.validate_ok_iff] at usable
  constructor
  · exact ⟨Lattice.to_offset_eq_place usable startInside,
      Lattice.to_offset_eq_place usable goalInside⟩
  · exact Lattice.walk_fits usable startInside goalInside
  · rw [Tracer.between, ← Segment.walk_zero]
    exact Segment.take_past (Nat.sub_le _ _) (Nat.zero_le _)
  · exact fun place given => Lattice.cell_of_given usable startInside goalInside given
  · apply foldlM_note_strictly _ _ _ rfl
    intro place member
    have given := Segment.gives_iff_mem_cells.mpr member
    exact (Lattice.cell_of_given usable startInside goalInside given).1
  · exact lattice_cast_ray _ _ _ _
  · exact fun cell aside => get_beside_ray usable startInside goalInside aside
  · intro cell held met
    exact ⟨_, get_eq_state_at held, get_along_ray usable startInside goalInside held met⟩

theorem ray_stays_inside_longest_row :
    let grid := blank ⟨268435456, 1, 1, .zero⟩
    grid.lattice.validate = .ok () ∧ grid.lattice.contains ⟨0, 0⟩ = true ∧
      grid.lattice.contains ⟨268435455, 0⟩ = true ∧
      StaysInside grid ⟨0, 0⟩ ⟨268435455, 0⟩ true := by
  intro grid
  have usable : grid.lattice.validate = .ok () := by decide +kernel
  have startInside : grid.lattice.contains ⟨0, 0⟩ = true := by decide
  have goalInside : grid.lattice.contains ⟨268435455, 0⟩ = true := by decide
  exact ⟨usable, startInside, goalInside, ray_stays_inside usable startInside goalInside true⟩

end Grid

end EvidenceGrid

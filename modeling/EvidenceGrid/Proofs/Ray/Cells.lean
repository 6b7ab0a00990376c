import EvidenceGrid.Proofs.Ray.Tally

/-!
The cells of a frame as two sets: those in which an obstacle lies, and those on the line to
some point. They say what each cell of the frame holds and bound its tallies. No ray is cast
from a sensor that is off the grid, so both are empty then.
-/

set_option autoImplicit false

namespace EvidenceGrid

namespace Lattice

def cellsHit (lattice : Lattice) (points : Cloud) : Finset Cell :=
  (points.filterMap fun point => (lattice.cellOf point.ground).toOption).toFinset

def cellsTraced (lattice : Lattice) (start : Cell) (points : Cloud) : Finset Cell :=
  (points.flatMap fun point =>
    match lattice.cellOf point.ground with
    | .error _ => []
    | .ok goal => (Segment.cells start.toOffset goal.toOffset).map Offset.toCell).toFinset

def hitFrom (lattice : Lattice) (sensor : Point) (points : Cloud) : Finset Cell :=
  match lattice.cellOf sensor with
  | .error _ => ∅
  | .ok _ => lattice.cellsHit points

def tracedFrom (lattice : Lattice) (sensor : Point) (points : Cloud) : Finset Cell :=
  match lattice.cellOf sensor with
  | .error _ => ∅
  | .ok start => lattice.cellsTraced start points

variable {lattice : Lattice} {points : Cloud} {start cell : Cell}

theorem mem_cells_hit_iff : cell ∈ lattice.cellsHit points ↔
    ∃ point ∈ points, lattice.cellOf point.ground = .ok cell := by
  rw [cellsHit, List.mem_toFinset, List.mem_filterMap]
  refine exists_congr fun point => and_congr_right fun _ => ?_
  cases lattice.cellOf point.ground <;> simp [Except.toOption]

theorem mem_cells_traced_iff (usable : lattice.Usable)
    (startInside : lattice.contains start = true) (held : lattice.contains cell = true) :
    cell ∈ lattice.cellsTraced start points ↔ ∃ point ∈ points, ∃ goal,
      lattice.cellOf point.ground = .ok goal ∧ (Tracer.between start goal).Gives cell.toOffset := by
  rw [cellsTraced, List.mem_toFinset, List.mem_flatMap]
  refine exists_congr fun point => and_congr_right fun _ => ?_
  cases aimed : lattice.cellOf point.ground with
  | error fault => simp
  | ok goal =>
      have goalInside := (cell_of_ok aimed).2
      have here := to_offset_eq_place usable held
      simp only [List.mem_map, Except.ok.injEq, exists_eq_left', Tracer.between,
        Segment.gives_iff_mem_cells]
      constructor
      · rintro ⟨place, member, same⟩
        have covers := Grid.covers_of_mem_cells usable startInside goalInside member
        rw [to_cell_eq_iff covers] at same
        rwa [here, ← same]
      · intro member
        have covers := Grid.covers_of_mem_cells usable startInside goalInside member
        exact ⟨_, member, (to_cell_eq_iff covers).mpr here⟩

theorem contains_of_mem_traced (usable : lattice.Usable)
    (startInside : lattice.contains start = true) (member : cell ∈ lattice.cellsTraced start points) :
    lattice.contains cell = true := by
  rw [cellsTraced, List.mem_toFinset, List.mem_flatMap] at member
  obtain ⟨point, -, traced⟩ := member
  cases aimed : lattice.cellOf point.ground with
  | error fault =>
      rw [aimed] at traced
      cases traced
  | ok goal =>
      rw [aimed, List.mem_map] at traced
      obtain ⟨place, walked, rfl⟩ := traced
      exact contains_to_cell
        (Grid.covers_of_mem_cells usable startInside (cell_of_ok aimed).2 walked)

end Lattice

namespace Grid

open EvidenceGrid.Lattice

variable {lattice : Lattice} {sensor : Point} {raw obstacle : Cloud} {grid : Grid Occupancy}
  {rays : RayTally}

theorem le_state_of_echoes
    {start : Cell} {echoes : List Echo} (found : lattice.cellOf sensor = .ok start)
    (cast : ofEchoes lattice sensor echoes = .ok (grid, rays)) {cell : Cell}
    (held : lattice.contains cell = true) (level : Occupancy) (known : level ≠ .unknown) :
    level ≤ grid.stateAt cell ↔ EchoesShow lattice start echoes cell level := by
  obtain ⟨usable, reached⟩ := of_echoes_ok_iff.mp cast
  have begun : (blank lattice).lattice.cellOf sensor = .ok start := found
  have marks := (marks_cast_frame usable begun echoes).le_iff cell held level
  rw [reached, state_at_blank] at marks
  rw [marks]
  refine or_iff_right ?_
  cases level with
  | unknown => exact absurd rfl known
  | free => decide
  | occupied => decide

theorem echoes_show_occupied_iff (usable : lattice.Usable) {start cell : Cell}
    (held : lattice.contains cell = true) :
    EchoesShow lattice start (Echo.ofClouds raw obstacle) cell .occupied ↔
      cell ∈ lattice.cellsHit obstacle := by
  rw [mem_cells_hit_iff]
  constructor
  · rintro ⟨echo, member, goal, aimed, shown⟩
    rw [ray_shows_occupied_iff usable (cell_of_ok aimed).2 held] at shown
    obtain ⟨isObstacle, rfl⟩ := shown
    rcases List.mem_append.mp member with inRaw | inObstacle
    · obtain ⟨point, -, rfl⟩ := List.mem_map.mp inRaw
      cases isObstacle
    · obtain ⟨point, used, rfl⟩ := List.mem_map.mp inObstacle
      exact ⟨point, used, aimed⟩
  · rintro ⟨point, used, aimed⟩
    refine ⟨⟨point.ground, true⟩, List.mem_append_right _ (List.mem_map_of_mem used), cell, aimed,
      ?_⟩
    exact (ray_shows_occupied_iff usable held held).mpr ⟨rfl, rfl⟩

theorem echoes_show_free_iff (usable : lattice.Usable) {start cell : Cell}
    (startInside : lattice.contains start = true) (held : lattice.contains cell = true) :
    EchoesShow lattice start (Echo.ofClouds raw obstacle) cell .free ↔
      cell ∈ lattice.cellsTraced start (raw ++ obstacle) := by
  rw [mem_cells_traced_iff usable startInside held]
  simp only [EchoesShow, ray_shows_free_iff, Echo.ofClouds, List.mem_append, List.mem_map]
  constructor
  · rintro ⟨echo, ⟨point, used, rfl⟩ | ⟨point, used, rfl⟩, reached⟩
    · exact ⟨point, Or.inl used, reached⟩
    · exact ⟨point, Or.inr used, reached⟩
  · rintro ⟨point, used | used, reached⟩
    · exact ⟨_, Or.inl ⟨point, used, rfl⟩, reached⟩
    · exact ⟨_, Or.inr ⟨point, used, rfl⟩, reached⟩

/-- A cell of a frame is occupied when an obstacle lies in it, and else free when it lies on
the line to some point. -/
theorem state_of_clouds
    (cast : ofEchoes lattice sensor (Echo.ofClouds raw obstacle) = .ok (grid, rays)) (cell : Cell) :
    (cell ∈ lattice.hitFrom sensor obstacle ↔
      lattice.contains cell = true ∧ grid.stateAt cell = .occupied) ∧
    (cell ∈ lattice.tracedFrom sensor (raw ++ obstacle) \ lattice.hitFrom sensor obstacle ↔
      lattice.contains cell = true ∧ grid.stateAt cell = .free) := by
  obtain ⟨usable, reached⟩ := of_echoes_ok_iff.mp cast
  rw [Finset.mem_sdiff, hitFrom, tracedFrom]
  cases found : lattice.cellOf sensor with
  | error fault =>
      -- No ray is cast, so the frame stays as it began.
      have lost : (blank lattice).lattice.cellOf sensor = .error fault := found
      have unchanged := cast_frame_lost lost (Echo.ofClouds raw obstacle)
      rw [reached] at unchanged
      subst unchanged
      simp [state_at_blank]
  | ok start =>
      have startInside := (cell_of_ok found).2
      by_cases held : lattice.contains cell = true
      · have occupied := le_state_of_echoes found cast held .occupied (by decide)
        have free := le_state_of_echoes found cast held .free (by decide)
        rw [echoes_show_occupied_iff usable held, Occupancy.occupied_le_iff] at occupied
        rw [echoes_show_free_iff usable startInside held, Occupancy.free_le_iff] at free
        simp only [held, true_and, ← occupied, ← free]
        cases grid.stateAt cell <;> simp
      · have notHit : cell ∉ lattice.cellsHit obstacle := fun member =>
          have ⟨_, _, aimed⟩ := mem_cells_hit_iff.mp member
          held (cell_of_ok aimed).2
        have notTraced : cell ∉ lattice.cellsTraced start (raw ++ obstacle) := fun member =>
          held (contains_of_mem_traced usable startInside member)
        simp [held, notHit, notTraced]

theorem seen_in_cell
    (cast : ofEchoes lattice sensor (Echo.ofClouds raw obstacle) = .ok (grid, rays))
    {cell : Cell} (held : lattice.contains cell = true) :
    grid.stateAt cell =
      if cell ∈ lattice.hitFrom sensor obstacle then .occupied
      else if cell ∈ lattice.tracedFrom sensor (raw ++ obstacle) then .free
      else .unknown := by
  obtain ⟨occupied, free⟩ := state_of_clouds cast cell
  rw [Finset.mem_sdiff] at free
  split_ifs with hit traced
  · exact (occupied.mp hit).2
  · exact (free.mp ⟨traced, hit⟩).2
  · cases state : grid.stateAt cell with
    | unknown => rfl
    | free => exact absurd (free.mpr ⟨held, state⟩).1 traced
    | occupied => exact absurd (occupied.mpr ⟨held, state⟩) hit

theorem count_of_clouds
    (cast : ofEchoes lattice sensor (Echo.ofClouds raw obstacle) = .ok (grid, rays)) :
    grid.cells.count .occupied = (lattice.hitFrom sensor obstacle).card ∧
      grid.cells.count .free =
        (lattice.tracedFrom sensor (raw ++ obstacle) \ lattice.hitFrom sensor obstacle).card := by
  have same := lattice_of_echoes cast
  constructor
  · apply count_eq_card
    intro cell
    rw [same]
    exact (state_of_clouds cast cell).1
  · apply count_eq_card
    intro cell
    rw [same]
    exact (state_of_clouds cast cell).2

end Grid

end EvidenceGrid

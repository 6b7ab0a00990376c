import EvidenceGrid.Proofs.Frame
import EvidenceGrid.Proofs.Lattice.Cell
import EvidenceGrid.Proofs.Segment

/-!
What casting rays leaves in each cell. A cell holds at least a state afterwards
when it did before or when some ray shows that state in it; since states are in a
chain, that says what each cell holds, and it mentions neither the order of the
rays nor how often one is repeated. The tallies, which do depend on the order, are
not followed here.
-/

set_option autoImplicit false

namespace EvidenceGrid

namespace Occupancy

theorem le_join_iff {level left right : Occupancy} :
    level ≤ left.join right ↔ level ≤ left ∨ level ≤ right := by
  cases level <;> cases left <;> cases right <;> decide

theorem eq_of_levels {left right : Occupancy} (same : ∀ level, level ≤ left ↔ level ≤ right) :
    left = right := by
  have ranks : left.rank = right.rank :=
    Nat.le_antisymm ((same left).mp (Nat.le_refl _)) ((same right).mpr (Nat.le_refl _))
  cases left <;> cases right <;> simp [rank] at ranks ⊢

theorem occupied_le_iff {state : Occupancy} : occupied ≤ state ↔ state = occupied := by
  cases state <;> decide

theorem free_le_iff {state : Occupancy} : free ≤ state ↔ state = occupied ∨ state = free := by
  cases state <;> decide

end Occupancy

namespace Grid

/-- What a grid holds in a cell; nothing is known of cells it does not have. -/
def stateAt (grid : Grid Occupancy) (cell : Cell) : Occupancy :=
  match grid.get cell with
  | .ok state => state
  | .error _ => .unknown

section State

variable {grid : Grid Occupancy} {cell : Cell}

theorem get_eq_state_at (inside : grid.lattice.contains cell = true) :
    grid.get cell = .ok (grid.stateAt cell) := by
  rw [stateAt, get, dif_pos inside]

theorem state_at_eq (inside : grid.lattice.contains cell = true) :
    grid.cells[grid.lattice.index cell]? = some (grid.stateAt cell) := by
  rw [stateAt, get, dif_pos inside, Array.getElem?_eq_getElem (index_lt_size inside)]

theorem state_at_note {noted : Cell} (inside : grid.lattice.contains noted = true)
    (held : grid.lattice.contains cell = true) (tally : RayTally) (seen : Occupancy) :
    (grid.note tally noted seen).1.stateAt cell =
      if noted = cell then (grid.stateAt cell).join seen else grid.stateAt cell := by
  have bound := index_lt_size inside
  have own : grid.cells[grid.lattice.index noted] = grid.stateAt noted := by
    have value := state_at_eq inside
    rwa [Array.getElem?_eq_getElem bound, Option.some.injEq] at value
  have keptInside : (grid.note tally noted seen).1.lattice.contains cell = true := by
    rw [lattice_note]
    exact held
  have value := state_at_eq keptInside
  rw [lattice_note] at value
  apply Option.some.inj
  rw [← value, note, dif_pos inside]
  simp only [Occupancy.mark, own]
  split_ifs with changed same same
  · subst same
    rw [Array.getElem?_set_self]
  · rw [Array.getElem?_set_ne _ fun shared => same (Lattice.index_injective inside held shared),
      state_at_eq held]
  · subst same
    have joined : (grid.stateAt noted).join seen = grid.stateAt noted := by simpa using changed
    rw [joined, state_at_eq held]
  · exact state_at_eq held

theorem eq_of_state_at {left right : Grid Occupancy} (lattice : right.lattice = left.lattice)
    (same : ∀ cell, left.lattice.contains cell = true → left.stateAt cell = right.stateAt cell) :
    left = right := by
  have cells : left.cells = right.cells := by
    apply Array.ext_getElem?
    intro index
    by_cases below : index < left.lattice.area
    · obtain ⟨inside, stored⟩ := Lattice.index_cell_at below
      have otherInside : right.lattice.contains (left.lattice.cellAt index) = true := by
        rw [lattice]
        exact inside
      have leftValue := state_at_eq inside
      have rightValue := state_at_eq otherInside
      rw [stored] at leftValue
      rw [lattice, stored] at rightValue
      rw [leftValue, rightValue, same _ inside]
    · have leftShort : left.cells.size ≤ index := by
        rw [left.sized]
        exact not_lt.mp below
      have rightShort : right.cells.size ≤ index := by
        rw [right.sized, lattice]
        exact not_lt.mp below
      rw [Array.getElem?_eq_none leftShort, Array.getElem?_eq_none rightShort]
  cases left
  cases right
  cases lattice
  cases cells
  rfl

end State

/-- What a cast has added: the states shown in each cell, and nothing else. -/
structure Marks (before after : Grid Occupancy) (shows : Cell → Occupancy → Prop) : Prop where
  lattice_eq : after.lattice = before.lattice
  le_iff : ∀ cell, before.lattice.contains cell = true → ∀ level,
    level ≤ after.stateAt cell ↔ level ≤ before.stateAt cell ∨ shows cell level

section Marks

theorem marks_note (grid : Grid Occupancy) (tally : RayTally) (noted : Cell) (seen : Occupancy) :
    Marks grid (grid.note tally noted seen).1 fun cell level => noted = cell ∧ level ≤ seen := by
  refine ⟨lattice_note _ _ _ _, ?_⟩
  intro cell held level
  by_cases inside : grid.lattice.contains noted = true
  · rw [state_at_note inside held]
    split_ifs with same
    · rw [Occupancy.le_join_iff]
      simp [same]
    · simp [same]
  · have elsewhere : noted ≠ cell := by
      rintro rfl
      exact inside held
    rw [note, dif_neg inside]
    simp [elsewhere]

theorem marks_foldl {α : Type} {lattice : Lattice}
    {step : Grid Occupancy × RayTally → α → Grid Occupancy × RayTally}
    {shows : α → Cell → Occupancy → Prop} (items : List α)
    (marks : ∀ item ∈ items, ∀ state : Grid Occupancy × RayTally, state.1.lattice = lattice →
      Marks state.1 (step state item).1 (shows item))
    (state : Grid Occupancy × RayTally) (same : state.1.lattice = lattice) :
    Marks state.1 (items.foldl step state).1 fun cell level =>
      ∃ item ∈ items, shows item cell level := by
  induction items generalizing state with
  | nil => exact ⟨rfl, fun cell _ level => by simp⟩
  | cons item rest ih =>
      have first := marks item List.mem_cons_self state same
      have others := ih (fun other member => marks other (List.mem_cons_of_mem _ member))
        (step state item) (first.lattice_eq.trans same)
      refine ⟨others.lattice_eq.trans first.lattice_eq, ?_⟩
      intro cell held level
      have still : (step state item).1.lattice.contains cell = true := by
        rw [first.lattice_eq]
        exact held
      rw [List.foldl_cons, others.le_iff cell still, first.le_iff cell held, or_assoc]
      simp only [List.mem_cons, exists_eq_or_imp]

/-- The states that a ray shows in a cell: that it is free on the whole segment, and that
it is occupied at the end of a ray to an obstacle. -/
def RayShows (start goal : Cell) (obstacle : Bool) (cell : Cell) (level : Occupancy) : Prop :=
  (Tracer.between start goal).Gives cell.toOffset ∧
    level ≤ seenAt goal.toOffset obstacle cell.toOffset

variable {grid : Grid Occupancy} {start goal : Cell}

theorem covers_of_mem_cells {lattice : Lattice} (usable : lattice.Usable)
    (startInside : lattice.contains start = true) (goalInside : lattice.contains goal = true)
    {place : Offset} (member : place ∈ Segment.cells start.toOffset goal.toOffset) :
    lattice.Covers place := by
  have startCovers := (Lattice.contains_iff_covers _ _).mp startInside
  have goalCovers := (Lattice.contains_iff_covers _ _).mp goalInside
  rw [Lattice.to_offset_eq_place usable startInside,
    Lattice.to_offset_eq_place usable goalInside] at member
  obtain ⟨column, row⟩ := Segment.between_of_mem_cells member
  obtain ⟨⟨startLeft, startRight⟩, startBottom, startTop⟩ := startCovers
  obtain ⟨⟨goalLeft, goalRight⟩, goalBottom, goalTop⟩ := goalCovers
  constructor <;> omega

theorem marks_cast_ray (usable : grid.lattice.Usable)
    (startInside : grid.lattice.contains start = true)
    (goalInside : grid.lattice.contains goal = true) (obstacle : Bool) :
    Marks grid (grid.castRay start goal obstacle).1 (RayShows start goal obstacle) := by
  have notes := marks_foldl (Segment.cells start.toOffset goal.toOffset)
    (fun place _ state _ => marks_note state.1 state.2 place.toCell
      (seenAt goal.toOffset obstacle place)) (grid, { cast := 1 }) rfl
  refine ⟨notes.lattice_eq, ?_⟩
  intro cell held level
  refine (notes.le_iff cell held level).trans (or_congr_right ?_)
  have here := Lattice.to_offset_eq_place usable held
  rw [RayShows, Tracer.between, Segment.gives_iff_mem_cells]
  constructor
  · rintro ⟨place, member, same, shown⟩
    have covers := covers_of_mem_cells usable startInside goalInside member
    rw [Lattice.to_cell_eq_iff covers] at same
    rw [here, ← same]
    exact ⟨member, shown⟩
  · rintro ⟨member, shown⟩
    have covers := covers_of_mem_cells usable startInside goalInside member
    exact ⟨cell.toOffset, member, (Lattice.to_cell_eq_iff covers).mpr here, shown⟩

def EchoesShow (lattice : Lattice) (start : Cell) (echoes : List Echo) (cell : Cell)
    (level : Occupancy) : Prop :=
  ∃ echo ∈ echoes, ∃ goal, lattice.cellOf echo.point = .ok goal ∧
    RayShows start goal echo.obstacle cell level

theorem marks_cast_frame (usable : grid.lattice.Usable) {sensor : Point}
    (found : grid.lattice.cellOf sensor = .ok start) (echoes : List Echo) :
    Marks grid (grid.castFrame sensor echoes).1 (EchoesShow grid.lattice start echoes) := by
  have startInside := (Lattice.cell_of_ok found).2
  rw [castFrame, found]
  refine marks_foldl echoes ?_ (grid, {}) rfl
  intro echo _ state same
  simp only [same]
  cases aimed : grid.lattice.cellOf echo.point with
  | error fault => exact ⟨rfl, fun cell _ level => by simp⟩
  | ok goal =>
      have goalInside := (Lattice.cell_of_ok aimed).2
      rw [← same] at usable startInside goalInside
      have ray := marks_cast_ray usable startInside goalInside echo.obstacle
      exact ⟨ray.lattice_eq, fun cell held level => by simp [ray.le_iff cell held level]⟩

theorem cast_frame_lost {sensor : Point} {fault : Fault}
    (lost : grid.lattice.cellOf sensor = .error fault) (echoes : List Echo) :
    (grid.castFrame sensor echoes).1 = grid := by
  rw [castFrame, lost]

theorem cast_frame_congr (usable : grid.lattice.Usable) (sensor : Point) {echoes others : List Echo}
    (same : ∀ start cell level, EchoesShow grid.lattice start others cell level ↔
      EchoesShow grid.lattice start echoes cell level) :
    (grid.castFrame sensor others).1 = (grid.castFrame sensor echoes).1 := by
  cases found : grid.lattice.cellOf sensor with
  | error fault => rw [cast_frame_lost found, cast_frame_lost found]
  | ok start =>
      have marks := marks_cast_frame usable found echoes
      have othersMark := marks_cast_frame usable found others
      apply eq_of_state_at (marks.lattice_eq.trans othersMark.lattice_eq.symm)
      intro cell held
      rw [othersMark.lattice_eq] at held
      apply Occupancy.eq_of_levels
      intro level
      rw [othersMark.le_iff cell held, marks.le_iff cell held, same]

theorem ray_shows_free_iff {obstacle : Bool} {cell : Cell} :
    RayShows start goal obstacle cell .free ↔
      (Tracer.between start goal).Gives cell.toOffset := by
  rw [RayShows, and_iff_left_iff_imp, Occupancy.free_le_iff, seenAt]
  intro _
  split_ifs <;> simp

theorem ray_shows_occupied_iff {lattice : Lattice} (usable : lattice.Usable)
    (goalInside : lattice.contains goal = true) {obstacle : Bool} {cell : Cell}
    (held : lattice.contains cell = true) :
    RayShows start goal obstacle cell .occupied ↔ obstacle = true ∧ goal = cell := by
  have same : cell.toOffset = goal.toOffset ↔ goal = cell := by
    rw [Lattice.to_offset_eq_place usable held, Lattice.to_offset_eq_place usable goalInside,
      Lattice.place_injective, eq_comm]
  rw [RayShows, Tracer.between, Segment.gives_iff_mem_cells, Occupancy.occupied_le_iff, seenAt]
  constructor
  · rintro ⟨-, shown⟩
    split_ifs at shown with aimed
    rw [Bool.and_eq_true, decide_eq_true_eq, same] at aimed
    exact aimed
  · rintro ⟨rfl, rfl⟩
    exact ⟨Segment.goal_mem_cells _ _, by simp⟩

end Marks

/-- Casting a frame moves nothing, and changes nothing when the sensor is off the grid.
Otherwise a cell is occupied afterwards exactly when it was or when an obstacle's echo
lies in it, and else free exactly when it was or when it lies on the segment to some echo
on the grid. Which echoes there are is all that matters, not their order or number. -/
theorem cast_frame_exact {grid : Grid Occupancy} (usable : grid.lattice.validate = .ok ())
    (sensor : Point) (echoes : List Echo) :
    (grid.castFrame sensor echoes).1.lattice = grid.lattice ∧
    (∀ fault, grid.lattice.cellOf sensor = .error fault →
      (grid.castFrame sensor echoes).1 = grid) ∧
    (∀ start, grid.lattice.cellOf sensor = .ok start → ∀ cell,
      grid.lattice.contains cell = true →
        ∃ before after, grid.get cell = .ok before ∧
          (grid.castFrame sensor echoes).1.get cell = .ok after ∧
          (after = .occupied ↔ before = .occupied ∨
            ∃ echo ∈ echoes, echo.obstacle = true ∧
              grid.lattice.cellOf echo.point = .ok cell) ∧
          (after = .free ↔ after ≠ .occupied ∧ (before = .free ∨
            ∃ echo ∈ echoes, ∃ goal, grid.lattice.cellOf echo.point = .ok goal ∧
              (Tracer.between start goal).Gives cell.toOffset)) ∧
          before ≤ after) ∧
    ∀ others : List Echo, (∀ echo, echo ∈ others ↔ echo ∈ echoes) →
      (grid.castFrame sensor others).1 = (grid.castFrame sensor echoes).1 := by
  rw [Lattice.validate_ok_iff] at usable
  refine ⟨lattice_cast_frame _ _ _, fun fault lost => cast_frame_lost lost echoes, ?_, ?_⟩
  · intro start found cell held
    have marks := (marks_cast_frame usable found echoes).le_iff cell held
    have stillHeld : (grid.castFrame sensor echoes).1.lattice.contains cell = true := by
      rw [lattice_cast_frame]
      exact held
    refine ⟨_, _, get_eq_state_at held, get_eq_state_at stillHeld, ?_, ?_, ?_⟩
    · rw [← Occupancy.occupied_le_iff, marks, Occupancy.occupied_le_iff]
      refine or_congr_right (exists_congr fun echo => and_congr_right fun _ => ?_)
      constructor
      · rintro ⟨goal, aimed, shown⟩
        rw [ray_shows_occupied_iff usable (Lattice.cell_of_ok aimed).2 held] at shown
        exact ⟨shown.1, by rw [aimed, shown.2]⟩
      · rintro ⟨obstacle, aimed⟩
        exact ⟨cell, aimed, (ray_shows_occupied_iff usable held held).mpr ⟨obstacle, rfl⟩⟩
    · have free := marks .free
      have occupied := marks .occupied
      simp only [EchoesShow, ray_shows_free_iff, Occupancy.free_le_iff] at free
      rw [Occupancy.occupied_le_iff, Occupancy.occupied_le_iff] at occupied
      constructor
      · intro now
        have seen := free.mp (Or.inr now)
        rw [now] at occupied ⊢
        refine ⟨by decide, ?_⟩
        rcases seen with (before | before) | shown
        · exact absurd (occupied.mpr (Or.inl before)) (by decide)
        · exact Or.inl before
        · exact Or.inr shown
      · rintro ⟨unoccupied, before | shown⟩
        · exact (free.mpr (Or.inl (Or.inr before))).resolve_left unoccupied
        · exact (free.mpr (Or.inr shown)).resolve_left unoccupied
    · exact (marks _).mpr (Or.inl (Nat.le_refl _))
  · intro others same
    apply cast_frame_congr usable sensor
    intro start cell level
    exact exists_congr fun echo => and_congr_left fun _ => same echo

theorem cast_frame_exact_crossing :
    let grid : Grid Occupancy :=
      ⟨⟨4, 1, 1, .zero⟩, #[.unknown, .unknown, .unknown, .occupied], rfl⟩
    let echoes : List Echo := [⟨⟨2.5, 0.5⟩, true⟩, ⟨⟨3.5, 0.5⟩, false⟩]
    grid.lattice.validate = .ok () ∧ grid.lattice.cellOf ⟨0.5, 0.5⟩ = .ok ⟨0, 0⟩ ∧
      (grid.castFrame ⟨0.5, 0.5⟩ echoes).1.get ⟨2, 0⟩ = .ok .occupied ∧
      (grid.castFrame ⟨0.5, 0.5⟩ echoes).1.get ⟨1, 0⟩ = .ok .free ∧
      (grid.castFrame ⟨0.5, 0.5⟩ echoes.reverse).1 = (grid.castFrame ⟨0.5, 0.5⟩ echoes).1 := by
  intro grid echoes
  have usable : grid.lattice.validate = .ok () := by decide +kernel
  have found : grid.lattice.cellOf ⟨0.5, 0.5⟩ = .ok ⟨0, 0⟩ := by decide +kernel
  have near : grid.lattice.cellOf ⟨2.5, 0.5⟩ = .ok ⟨2, 0⟩ := by decide +kernel
  have far : grid.lattice.cellOf ⟨3.5, 0.5⟩ = .ok ⟨3, 0⟩ := by decide +kernel
  obtain ⟨-, -, states, reordered⟩ := cast_frame_exact usable ⟨0.5, 0.5⟩ echoes
  refine ⟨usable, found, ?_, ?_, reordered _ fun echo => List.mem_reverse⟩
  · obtain ⟨before, after, -, now, occupied, -⟩ := states _ found ⟨2, 0⟩ (by decide)
    rw [now, occupied.mpr (Or.inr ⟨_, List.mem_cons_self, rfl, near⟩)]
  · obtain ⟨before, after, was, now, occupied, free, -⟩ := states _ found ⟨1, 0⟩ (by decide)
    have unknown : before = .unknown := (Except.ok.inj was).symm
    have unoccupied : after ≠ .occupied := by
      rw [Ne, occupied, unknown]
      simp [echoes, near, far]
    have passed : (Tracer.between ⟨0, 0⟩ ⟨2, 0⟩).Gives (Cell.toOffset ⟨1, 0⟩) :=
      ⟨2, by decide⟩
    rw [now, free.mpr ⟨unoccupied, Or.inr ⟨_, List.mem_cons_self, _, near, passed⟩⟩]

end Grid

end EvidenceGrid

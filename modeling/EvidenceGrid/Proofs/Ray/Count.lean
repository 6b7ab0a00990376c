import EvidenceGrid.Proofs.Ray.Tally

/-!
The tallies of a frame, cell by cell. Casting takes notes, one in each cell of each ray, and each
note is counted when it changes its cell. A cell leaves the unknown with the first note that
reaches it and comes to be occupied once, so both counts are sizes of sets of cells, whatever the
grid held before. The order of the rays decides which note is the first, but not which cells are
noted as occupied.
-/

set_option autoImplicit false

namespace EvidenceGrid

namespace Occupancy

theorem join_known (state : Occupancy) {seen : Occupancy} (known : seen ≠ .unknown) :
    state.join seen ≠ .unknown := by
  cases seen with
  | unknown => exact absurd rfl known
  | free => cases state <;> decide
  | occupied => cases state <;> decide

theorem join_occupied_iff (state seen : Occupancy) :
    state.join seen = .occupied ↔ state = .occupied ∨ seen = .occupied := by
  cases state <;> cases seen <;> decide

end Occupancy

namespace Lattice

def everyCell (lattice : Lattice) : Finset Cell :=
  (Finset.range lattice.area).image lattice.cellAt

theorem mem_every_cell {lattice : Lattice} {cell : Cell} :
    cell ∈ lattice.everyCell ↔ lattice.contains cell = true := by
  rw [everyCell, Finset.mem_image]
  constructor
  · rintro ⟨index, below, rfl⟩
    exact (index_cell_at (Finset.mem_range.mp below)).1
  · intro inside
    exact ⟨_, Finset.mem_range.mpr (index_lt_area inside), cell_at_index inside⟩

end Lattice

abbrev Notes := List (Cell × Occupancy)

namespace Notes

def ofRay (start goal : Cell) (obstacle : Bool) : Notes :=
  (Segment.cells start.toOffset goal.toOffset).map fun place =>
    (place.toCell, Grid.seenAt goal.toOffset obstacle place)

def ofEcho (lattice : Lattice) (start : Cell) (echo : Echo) : Notes :=
  match lattice.cellOf echo.point with
  | .error _ => []
  | .ok goal => ofRay start goal echo.obstacle

def ofEchoes (lattice : Lattice) (sensor : Point) (echoes : List Echo) : Notes :=
  match lattice.cellOf sensor with
  | .error _ => []
  | .ok start => echoes.flatMap (ofEcho lattice start)

def first (notes : Notes) (cell : Cell) : Option Occupancy :=
  (notes.find? fun note => note.1 = cell).map Prod.snd

theorem first_append (earlier later : Notes) (cell : Cell) :
    first (earlier ++ later) cell = (first earlier cell).or (first later cell) := by
  rw [first, List.find?_append, Option.map_or]
  rfl

theorem first_single (noted cell : Cell) (seen : Occupancy) :
    first [(noted, seen)] cell = if noted = cell then some seen else none := by
  by_cases same : noted = cell <;> simp [first, same]

end Notes

namespace Grid

def turnedFree (grid : Grid Occupancy) (notes : Notes) : Finset Cell :=
  grid.lattice.everyCell.filter fun cell =>
    grid.stateAt cell = .unknown ∧ notes.first cell = some .free

def turnedOccupied (before after : Grid Occupancy) : Finset Cell :=
  before.lattice.everyCell.filter fun cell =>
    before.stateAt cell ≠ .occupied ∧ after.stateAt cell = .occupied

def noteAll (grid : Grid Occupancy) (notes : Notes) : Grid Occupancy :=
  notes.foldl (fun grid (cell, seen) => (grid.note {} cell seen).1) grid

/-- What notes make of a state: the grid, the cells they leave unknown, those they occupy, and the
tally of the cells they turn free. -/
structure Noted (notes : Notes) (before after : Grid Occupancy × RayTally) : Prop where
  grid_eq : after.1 = before.1.noteAll notes
  lattice_eq : after.1.lattice = before.1.lattice
  unknown_iff : ∀ cell, before.1.lattice.contains cell = true →
    (after.1.stateAt cell = .unknown ↔
      before.1.stateAt cell = .unknown ∧ notes.first cell = none)
  occupied_iff : ∀ cell, before.1.lattice.contains cell = true →
    (after.1.stateAt cell = .occupied ↔
      before.1.stateAt cell = .occupied ∨ (cell, .occupied) ∈ notes)
  freed_eq : after.2.freed = before.2.freed + (before.1.turnedFree notes).card

section Noted

variable {grid : Grid Occupancy} {state middle after : Grid Occupancy × RayTally}
  {earlier later notes : Notes}

theorem mem_turned_free {cell : Cell} : cell ∈ grid.turnedFree notes ↔
    grid.lattice.contains cell = true ∧ grid.stateAt cell = .unknown ∧
      notes.first cell = some .free := by
  rw [turnedFree, Finset.mem_filter, Lattice.mem_every_cell]

theorem noted_nil (same : after.1 = state.1) (freed : after.2.freed = state.2.freed) :
    Noted [] state after := by
  refine ⟨same, congrArg Grid.lattice same, ?_, ?_, ?_⟩
  · intro cell _
    rw [same]
    exact (and_iff_left rfl).symm
  · intro cell _
    rw [same]
    exact (or_iff_left List.not_mem_nil).symm
  · have none : state.1.turnedFree [] = ∅ := by
      ext cell
      simp [mem_turned_free, Notes.first]
    rw [none, freed, Finset.card_empty, Nat.add_zero]

theorem noted_append (start : Noted earlier state middle) (rest : Noted later middle after) :
    Noted (earlier ++ later) state after := by
  have held {cell : Cell} (inside : state.1.lattice.contains cell = true) :
      middle.1.lattice.contains cell = true := by rwa [start.lattice_eq]
  refine ⟨?_, rest.lattice_eq.trans start.lattice_eq, ?_, ?_, ?_⟩
  · rw [rest.grid_eq, start.grid_eq, noteAll, noteAll, noteAll, List.foldl_append]
  · intro cell inside
    rw [rest.unknown_iff cell (held inside), start.unknown_iff cell inside, Notes.first_append,
      Option.or_eq_none_iff, and_assoc]
  · intro cell inside
    rw [rest.occupied_iff cell (held inside), start.occupied_iff cell inside, List.mem_append,
      or_assoc]
  · have turned : state.1.turnedFree (earlier ++ later) =
        state.1.turnedFree earlier ∪ middle.1.turnedFree later := by
      ext cell
      simp only [Finset.mem_union, mem_turned_free, start.lattice_eq, Notes.first_append]
      by_cases inside : state.1.lattice.contains cell = true
      · rw [start.unknown_iff cell inside]
        cases Notes.first earlier cell <;> simp [inside]
      · simp [inside]
    have apart : Disjoint (state.1.turnedFree earlier) (middle.1.turnedFree later) := by
      rw [Finset.disjoint_left]
      intro cell early late
      obtain ⟨inside, -, seen⟩ := mem_turned_free.mp early
      obtain ⟨-, unknown, -⟩ := mem_turned_free.mp late
      rw [start.unknown_iff cell inside, seen] at unknown
      exact absurd unknown.2 (by simp)
    rw [rest.freed_eq, start.freed_eq, turned, Finset.card_union_of_disjoint apart,
      Nat.add_assoc]

theorem noted_foldl {α : Type} (lattice : Lattice)
    {step : Grid Occupancy × RayTally → α → Grid Occupancy × RayTally} {notesOf : α → Notes}
    (noted : ∀ state item, state.1.lattice = lattice → Noted (notesOf item) state (step state item))
    (items : List α) (state : Grid Occupancy × RayTally) (same : state.1.lattice = lattice) :
    Noted (items.flatMap notesOf) state (items.foldl step state) := by
  induction items generalizing state with
  | nil => exact noted_nil rfl rfl
  | cons item rest ih =>
      have now := noted state item same
      exact noted_append now (ih _ (now.lattice_eq.trans same))

def FreesUnknown (grid : Grid Occupancy) (cell : Cell) (seen : Occupancy) : Prop :=
  grid.lattice.contains cell = true ∧ grid.stateAt cell = .unknown ∧ seen = .free

instance (grid : Grid Occupancy) (cell : Cell) (seen : Occupancy) :
    Decidable (grid.FreesUnknown cell seen) :=
  inferInstanceAs (Decidable (_ ∧ _ ∧ _))

theorem freed_note (grid : Grid Occupancy) (tally : RayTally) (cell : Cell) (seen : Occupancy) :
    (grid.note tally cell seen).2.freed =
      tally.freed + if grid.FreesUnknown cell seen then 1 else 0 := by
  by_cases inside : grid.lattice.contains cell = true
  · have bound := index_lt_size inside
    have own : grid.cells[grid.lattice.index cell] = grid.stateAt cell := by
      have value := state_at_eq inside
      rwa [Array.getElem?_eq_getElem bound, Option.some.injEq] at value
    rw [note_eq grid tally seen inside bound, apply_ite Prod.snd, apply_ite RayTally.freed]
    simp only [own, FreesUnknown, inside, true_and]
    cases grid.stateAt cell <;> cases seen <;> rfl
  · rw [note, dif_neg inside, if_neg fun frees => inside frees.1, Nat.add_zero]

theorem card_turned_free_single (grid : Grid Occupancy) (noted : Cell) (seen : Occupancy) :
    (grid.turnedFree [(noted, seen)]).card = if grid.FreesUnknown noted seen then 1 else 0 := by
  split_ifs with frees
  · obtain ⟨inside, unknown, rfl⟩ := frees
    rw [Finset.card_eq_one]
    refine ⟨noted, Finset.ext fun cell => ?_⟩
    rw [mem_turned_free, Finset.mem_singleton, Notes.first_single]
    constructor
    · rintro ⟨-, -, seen⟩
      split_ifs at seen with same
      exact same.symm
    · rintro rfl
      exact ⟨inside, unknown, if_pos rfl⟩
  · rw [Finset.card_eq_zero, Finset.eq_empty_iff_forall_notMem]
    intro cell member
    obtain ⟨inside, unknown, first⟩ := mem_turned_free.mp member
    rw [Notes.first_single] at first
    split_ifs at first with same
    subst same
    exact frees ⟨inside, unknown, Option.some.inj first⟩

theorem grid_note (grid : Grid Occupancy) (tally : RayTally) (cell : Cell) (seen : Occupancy) :
    (grid.note tally cell seen).1 = (grid.note {} cell seen).1 := by
  rw [note, note]
  split_ifs
  · simp only
    split_ifs <;> rfl
  · rfl

theorem state_at_noted (grid : Grid Occupancy) (tally : RayTally) (noted : Cell) (seen : Occupancy)
    {cell : Cell} (held : grid.lattice.contains cell = true) :
    (grid.note tally noted seen).1.stateAt cell =
      if noted = cell then (grid.stateAt cell).join seen else grid.stateAt cell := by
  by_cases inside : grid.lattice.contains noted = true
  · exact state_at_note inside held tally seen
  · have elsewhere : noted ≠ cell := by
      rintro rfl
      exact inside held
    rw [note, dif_neg inside, if_neg elsewhere]

theorem noted_note (grid : Grid Occupancy) (tally : RayTally) (noted : Cell) {seen : Occupancy}
    (known : seen ≠ .unknown) :
    Noted [(noted, seen)] (grid, tally) (grid.note tally noted seen) := by
  refine ⟨grid_note _ _ _ _, lattice_note _ _ _ _, ?_, ?_, ?_⟩
  · intro cell held
    rw [Notes.first_single, state_at_noted grid tally noted seen held]
    split_ifs with same
    · simp [Occupancy.join_known _ known]
    · simp
  · intro cell held
    rw [state_at_noted grid tally noted seen held, List.mem_singleton, Prod.mk.injEq]
    split_ifs with same
    · rw [Occupancy.join_occupied_iff, and_iff_right same.symm, eq_comm (a := seen)]
    · simp [Ne.symm same]
  · rw [freed_note, card_turned_free_single]

theorem noted_added {notes : Notes} {fresh : RayTally} (tally : RayTally)
    (noneFreed : fresh.freed = 0) (noted : Noted notes (grid, fresh) after) :
    Noted notes (grid, tally) (after.1, tally + after.2) := by
  obtain ⟨cells, lattice, unknown, occupied, freed⟩ := noted
  refine ⟨cells, lattice, unknown, occupied, ?_⟩
  simp only [RayTally.add_freed, freed, noneFreed, Nat.zero_add]

theorem seen_known (goal : Offset) (obstacle : Bool) (place : Offset) :
    seenAt goal obstacle place ≠ .unknown := by
  rw [seenAt]
  split_ifs <;> decide

theorem noted_cast_ray (grid : Grid Occupancy) (start goal : Cell) (obstacle : Bool) :
    Noted (Notes.ofRay start goal obstacle) (grid, { cast := 1 })
      (grid.castRay start goal obstacle) := by
  rw [Notes.ofRay, List.map_eq_flatMap]
  refine noted_foldl grid.lattice ?_ _ _ rfl
  intro state place _
  exact noted_note state.1 state.2 place.toCell (seen_known goal.toOffset obstacle place)

theorem noted_cast_frame (grid : Grid Occupancy) (sensor : Point) (echoes : List Echo) :
    Noted (Notes.ofEchoes grid.lattice sensor echoes) (grid, {})
      (grid.castFrame sensor echoes) := by
  rw [castFrame, Notes.ofEchoes]
  cases grid.lattice.cellOf sensor with
  | error fault => exact noted_nil rfl rfl
  | ok start =>
      refine noted_foldl grid.lattice ?_ _ _ rfl
      intro state echo same
      simp only [same, Notes.ofEcho]
      cases grid.lattice.cellOf echo.point with
      | error fault => exact noted_nil rfl rfl
      | ok goal => exact noted_added state.2 rfl (noted_cast_ray state.1 start goal echo.obstacle)

end Noted

/-- What the tally of a frame counts. -/
structure TalliesExactly (grid : Grid Occupancy) (sensor : Point) (echoes : List Echo) : Prop where
  echoes_eq : (grid.castFrame sensor echoes).2.cast + (grid.castFrame sensor echoes).2.skipped =
    echoes.length
  skipped_eq : (grid.castFrame sensor echoes).2.skipped =
    match grid.lattice.cellOf sensor with
    | .error _ => echoes.length
    | .ok _ => echoes.countP fun echo => !(grid.lattice.cellOf echo.point).isOk
  occupied_eq : (grid.castFrame sensor echoes).2.occupied =
    (grid.turnedOccupied (grid.castFrame sensor echoes).1).card
  /-- The order of the echoes and how often one is repeated do not matter. -/
  occupied_same : ∀ others : List Echo, (∀ echo, echo ∈ others ↔ echo ∈ echoes) →
    (grid.castFrame sensor others).2.occupied = (grid.castFrame sensor echoes).2.occupied
  freed_eq : (grid.castFrame sensor echoes).2.freed =
    (grid.turnedFree (Notes.ofEchoes grid.lattice sensor echoes)).card
  noted : (grid.castFrame sensor echoes).1 =
    grid.noteAll (Notes.ofEchoes grid.lattice sensor echoes)

section Tally

variable {grid : Grid Occupancy} {sensor : Point} {echoes others : List Echo}

theorem card_occupied (grid : Grid Occupancy) :
    grid.cells.count .occupied =
      (grid.lattice.everyCell.filter fun cell => grid.stateAt cell = .occupied).card := by
  apply count_eq_card
  intro cell
  rw [Finset.mem_filter, Lattice.mem_every_cell]

theorem occupied_turned (grid : Grid Occupancy) (sensor : Point) (echoes : List Echo) :
    (grid.castFrame sensor echoes).2.occupied =
      (grid.turnedOccupied (grid.castFrame sensor echoes).1).card := by
  have noted := noted_cast_frame grid sensor echoes
  have balanced := (balanced_cast_frame grid sensor echoes).occupied
  rw [card_occupied, card_occupied, noted.lattice_eq] at balanced
  set before := grid.lattice.everyCell.filter fun cell => grid.stateAt cell = .occupied
  set after := grid.lattice.everyCell.filter fun cell =>
    (grid.castFrame sensor echoes).1.stateAt cell = .occupied
  have kept : before ⊆ after := by
    intro cell member
    obtain ⟨inside, occupied⟩ := Finset.mem_filter.mp member
    have held := Lattice.mem_every_cell.mp inside
    exact Finset.mem_filter.mpr ⟨inside, (noted.occupied_iff cell held).mpr (Or.inl occupied)⟩
  have turned : grid.turnedOccupied (grid.castFrame sensor echoes).1 = after \ before := by
    ext cell
    rw [turnedOccupied, Finset.mem_filter, Finset.mem_sdiff, Finset.mem_filter, Finset.mem_filter]
    tauto
  have fewer := Finset.card_le_card kept
  rw [turned, Finset.card_sdiff_of_subset kept]
  simp only at balanced
  omega

theorem mem_notes_congr (lattice : Lattice) (sensor : Point)
    (same : ∀ echo, echo ∈ others ↔ echo ∈ echoes) (note : Cell × Occupancy) :
    note ∈ Notes.ofEchoes lattice sensor others ↔ note ∈ Notes.ofEchoes lattice sensor echoes := by
  rw [Notes.ofEchoes, Notes.ofEchoes]
  cases lattice.cellOf sensor with
  | error fault => exact Iff.rfl
  | ok start => simp only [List.mem_flatMap, same]

theorem occupied_congr (grid : Grid Occupancy) (sensor : Point)
    (same : ∀ echo, echo ∈ others ↔ echo ∈ echoes) :
    (grid.castFrame sensor others).2.occupied = (grid.castFrame sensor echoes).2.occupied := by
  have noted := noted_cast_frame grid sensor echoes
  have othersNoted := noted_cast_frame grid sensor others
  rw [occupied_turned, occupied_turned]
  congr 1
  apply Finset.filter_congr
  intro cell inside
  have held := Lattice.mem_every_cell.mp inside
  rw [noted.occupied_iff cell held, othersNoted.occupied_iff cell held,
    mem_notes_congr grid.lattice sensor same]

end Tally

/-- The tally of a frame is exact, whatever the grid held before. -/
theorem tallies_exactly (grid : Grid Occupancy) (sensor : Point) (echoes : List Echo) :
    TalliesExactly grid sensor echoes := by
  have noted := noted_cast_frame grid sensor echoes
  obtain ⟨cast, skipped⟩ := counts_cast_frame grid sensor echoes
  constructor
  · rw [cast, skipped, List.length_eq_countP_add_countP (grid.lattice.traces sensor)]
    simp
  · rw [skipped]
    cases found : grid.lattice.cellOf sensor with
    | error fault => simp [Lattice.traces, found, Except.toBool]
    | ok start => simp [Lattice.traces, found, Except.toBool]
  · exact occupied_turned grid sensor echoes
  · exact fun others same => occupied_congr grid sensor same
  · rw [noted.freed_eq, Nat.zero_add]
  · exact noted.grid_eq

/-- How many cells are freed depends on the order: the cell of an obstacle is freed first when
another ray passes through it first. -/
example :
    let grid : Grid Occupancy :=
      ⟨⟨4, 1, 1, .zero⟩, #[.unknown, .unknown, .unknown, .occupied], rfl⟩
    let echoes : List Echo := [⟨⟨2.5, 0.5⟩, true⟩, ⟨⟨3.5, 0.5⟩, false⟩]
    (grid.castFrame ⟨0.5, 0.5⟩ echoes).2 = ⟨2, 0, 2, 1⟩ ∧
      (grid.castFrame ⟨0.5, 0.5⟩ echoes.reverse).2 = ⟨2, 0, 3, 1⟩ := by
  decide +kernel

end Grid

end EvidenceGrid

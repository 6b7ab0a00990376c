import EvidenceGrid.Proofs.Ray

/-!
What the tallies of cast rays count. A cell turns occupied once, so those tallied as occupied
are the cells that came to be occupied. A cell turns free once as well, but may turn occupied
later; how many do depends on the order of the rays, so the tally of freed cells has bounds
only. Echoes are tallied by whether they and the sensor lie on the lattice.
-/

set_option autoImplicit false

namespace EvidenceGrid

def Lattice.traces (lattice : Lattice) (sensor : Point) (echo : Echo) : Bool :=
  (lattice.cellOf sensor).isOk && (lattice.cellOf echo.point).isOk

namespace RayTally

variable (left right : RayTally)

@[simp] theorem add_cast : (left + right).cast = left.cast + right.cast := rfl

@[simp] theorem add_skipped : (left + right).skipped = left.skipped + right.skipped := rfl

@[simp] theorem add_freed : (left + right).freed = left.freed + right.freed := rfl

@[simp] theorem add_occupied : (left + right).occupied = left.occupied + right.occupied := rfl

end RayTally

theorem Occupancy.mark_cases (state seen : Occupancy) :
    (state.mark seen).2 = false ∨
      (state = .unknown ∧ state.mark seen = (.free, true)) ∨
      (state = .unknown ∧ state.mark seen = (.occupied, true)) ∨
      (state = .free ∧ state.mark seen = (.occupied, true)) := by
  cases state <;> cases seen <;> decide

namespace Grid

/-- What casting has tallied between two states: each cell turned occupied, and at least the
cells turned free that are so now, but no more than those that came to be known. -/
structure Balanced (before after : Grid Occupancy × RayTally) : Prop where
  lattice_eq : after.1.lattice = before.1.lattice
  occupied : after.2.occupied + before.1.cells.count .occupied =
    before.2.occupied + after.1.cells.count .occupied
  free_le : before.2.freed + after.1.cells.count .free ≤
    after.2.freed + before.1.cells.count .free
  freed_le : after.2.freed + (before.1.cells.count .free + before.1.cells.count .occupied) ≤
    before.2.freed + (after.1.cells.count .free + after.1.cells.count .occupied)

section Balance

variable {grid : Grid Occupancy} {state middle after : Grid Occupancy × RayTally}

theorem balanced_refl (state : Grid Occupancy × RayTally) : Balanced state state :=
  ⟨rfl, rfl, Nat.le_refl _, Nat.le_refl _⟩

theorem balanced_trans (first : Balanced state middle) (second : Balanced middle after) :
    Balanced state after := by
  obtain ⟨lattice, occupied, free, freed⟩ := first
  obtain ⟨lattice', occupied', free', freed'⟩ := second
  refine ⟨lattice'.trans lattice, ?_, ?_, ?_⟩ <;> omega

theorem balanced_foldl {α : Type}
    {step : Grid Occupancy × RayTally → α → Grid Occupancy × RayTally}
    (balanced : ∀ state item, Balanced state (step state item)) (items : List α)
    (state : Grid Occupancy × RayTally) : Balanced state (items.foldl step state) := by
  induction items generalizing state with
  | nil => exact balanced_refl state
  | cons item rest ih =>
      rw [List.foldl_cons]
      exact balanced_trans (balanced state item) (ih (step state item))

theorem note_eq (grid : Grid Occupancy) (tally : RayTally) {cell : Cell} (seen : Occupancy)
    (inside : grid.lattice.contains cell = true)
    (bound : grid.lattice.index cell < grid.cells.size) :
    grid.note tally cell seen =
      if (grid.cells[grid.lattice.index cell].mark seen).2 then
        ({ grid with
            cells := grid.cells.set (grid.lattice.index cell)
              (grid.cells[grid.lattice.index cell].mark seen).1
            sized := by rw [Array.size_set, grid.sized] },
          tally.record (grid.cells[grid.lattice.index cell].mark seen).1)
      else (grid, tally) := by
  rw [note, dif_pos inside]

theorem count_turned {cells : Array Occupancy} {index : Nat} (bound : index < cells.size)
    (turned state : Occupancy) :
    (cells.set index turned).count state + (if cells[index] = state then 1 else 0) =
      cells.count state + (if turned = state then 1 else 0) := by
  -- Without the counted entry itself the subtraction in the count would be cut off.
  have held : cells[index] = state → 0 < cells.count state := fun same =>
    Array.count_pos_iff.mpr (same ▸ Array.getElem_mem bound)
  rw [Array.count_set bound]
  simp only [beq_iff_eq]
  split_ifs with was now now
  · have := held was
    omega
  · have := held was
    omega
  · omega
  · omega

theorem balanced_note (grid : Grid Occupancy) (tally : RayTally) (cell : Cell)
    (seen : Occupancy) : Balanced (grid, tally) (grid.note tally cell seen) := by
  by_cases inside : grid.lattice.contains cell = true
  · have bound := index_lt_size inside
    have turns (turned : Occupancy) := And.intro (count_turned bound turned .free)
      (count_turned bound turned .occupied)
    rw [note_eq grid tally seen inside bound]
    rcases Occupancy.mark_cases grid.cells[grid.lattice.index cell] seen with
      same | ⟨was, marked⟩ | ⟨was, marked⟩ | ⟨was, marked⟩
    · rw [same, if_neg Bool.false_ne_true]
      exact balanced_refl _
    · obtain ⟨free, occupied⟩ := turns .free
      simp only [was, reduceCtorEq, if_true, if_false] at free occupied
      simp only [marked, if_true, RayTally.record]
      refine ⟨rfl, ?_, ?_, ?_⟩ <;> simp only <;> omega
    · obtain ⟨free, occupied⟩ := turns .occupied
      simp only [was, reduceCtorEq, if_true, if_false] at free occupied
      simp only [marked, if_true, RayTally.record]
      refine ⟨rfl, ?_, ?_, ?_⟩ <;> simp only <;> omega
    · obtain ⟨free, occupied⟩ := turns .occupied
      simp only [was, reduceCtorEq, if_true, if_false] at free occupied
      simp only [marked, if_true, RayTally.record]
      refine ⟨rfl, ?_, ?_, ?_⟩ <;> simp only <;> omega
  · rw [note, dif_neg inside]
    exact balanced_refl _

theorem balanced_cast_ray (grid : Grid Occupancy) (start goal : Cell) (obstacle : Bool) :
    Balanced (grid, { cast := 1 }) (grid.castRay start goal obstacle) :=
  balanced_foldl (fun state _ => balanced_note state.1 state.2 _ _) _ _

theorem balanced_added {fresh : RayTally} (tally : RayTally) (noneFreed : fresh.freed = 0)
    (noneOccupied : fresh.occupied = 0) (balanced : Balanced (grid, fresh) after) :
    Balanced (grid, tally) (after.1, tally + after.2) := by
  obtain ⟨lattice, occupied, free, freed⟩ := balanced
  rw [noneOccupied] at occupied
  rw [noneFreed] at free freed
  refine ⟨lattice, ?_, ?_, ?_⟩
  · simp only [RayTally.add_occupied] at occupied ⊢
    omega
  · simp only [RayTally.add_freed] at free ⊢
    omega
  · simp only [RayTally.add_freed] at freed ⊢
    omega

theorem balanced_cast_frame (grid : Grid Occupancy) (sensor : Point) (echoes : List Echo) :
    Balanced (grid, {}) (grid.castFrame sensor echoes) := by
  rw [castFrame]
  split
  · exact ⟨rfl, rfl, Nat.le_refl _, Nat.le_refl _⟩
  · apply balanced_foldl
    intro state echo
    simp only
    split
    · exact ⟨rfl, rfl, Nat.le_refl _, Nat.le_refl _⟩
    · next start _ _ goal _ =>
        exact balanced_added state.2 rfl rfl (balanced_cast_ray state.1 start goal echo.obstacle)

end Balance

section Echoes

variable {grid : Grid Occupancy}

theorem counts_note (grid : Grid Occupancy) (tally : RayTally) (cell : Cell)
    (seen : Occupancy) : (grid.note tally cell seen).2.cast = tally.cast ∧
      (grid.note tally cell seen).2.skipped = tally.skipped := by
  have recorded (state : Occupancy) :
      (tally.record state).cast = tally.cast ∧ (tally.record state).skipped = tally.skipped := by
    cases state <;> exact ⟨rfl, rfl⟩
  rw [note]
  split_ifs with inside
  · simp only
    split_ifs
    · exact recorded _
    · exact ⟨rfl, rfl⟩
  · exact ⟨rfl, rfl⟩

theorem counts_cast_ray (grid : Grid Occupancy) (start goal : Cell) (obstacle : Bool) :
    (grid.castRay start goal obstacle).2.cast = 1 ∧
      (grid.castRay start goal obstacle).2.skipped = 0 := by
  rw [castRay]
  refine List.foldlRecOn
    (motive := fun state : Grid Occupancy × RayTally => state.2.cast = 1 ∧ state.2.skipped = 0)
    _ _ ⟨rfl, rfl⟩ ?_
  rintro state ⟨cast, skipped⟩ place -
  obtain ⟨castKept, skippedKept⟩ := counts_note state.1 state.2 place.toCell
    (seenAt goal.toOffset obstacle place)
  exact ⟨castKept.trans cast, skippedKept.trans skipped⟩

theorem counts_foldl {α : Type} (lattice : Lattice)
    {step : Grid Occupancy × RayTally → α → Grid Occupancy × RayTally} {traced : α → Bool}
    (counts : ∀ state item, state.1.lattice = lattice →
      (step state item).1.lattice = lattice ∧
      (step state item).2.cast = state.2.cast + (if traced item then 1 else 0) ∧
      (step state item).2.skipped = state.2.skipped + (if !traced item then 1 else 0))
    (items : List α) (state : Grid Occupancy × RayTally) (same : state.1.lattice = lattice) :
    (items.foldl step state).2.cast = state.2.cast + items.countP traced ∧
      (items.foldl step state).2.skipped =
        state.2.skipped + items.countP fun item => !traced item := by
  induction items generalizing state with
  | nil => exact ⟨rfl, rfl⟩
  | cons item rest ih =>
      obtain ⟨kept, cast, skipped⟩ := counts state item same
      obtain ⟨restCast, restSkipped⟩ := ih (step state item) kept
      rw [List.foldl_cons, restCast, restSkipped, cast, skipped, List.countP_cons, List.countP_cons]
      constructor <;> omega

theorem counts_cast_frame (grid : Grid Occupancy) (sensor : Point) (echoes : List Echo) :
    (grid.castFrame sensor echoes).2.cast = echoes.countP (grid.lattice.traces sensor) ∧
      (grid.castFrame sensor echoes).2.skipped =
        echoes.countP fun echo => !grid.lattice.traces sensor echo := by
  rw [castFrame]
  cases found : grid.lattice.cellOf sensor with
  | error fault =>
      have lost (echo : Echo) : grid.lattice.traces sensor echo = false := by
        rw [Lattice.traces, found]
        rfl
      constructor
      · rw [List.countP_eq_zero.mpr fun echo _ => by simp [lost echo]]
      · rw [List.countP_eq_length.mpr fun echo _ => by simp [lost echo]]
  | ok start =>
      have traced (echo : Echo) : grid.lattice.traces sensor echo =
          (grid.lattice.cellOf echo.point).isOk := by
        rw [Lattice.traces, found]
        rfl
      rw [← Nat.zero_add (echoes.countP _), ← Nat.zero_add (echoes.countP fun _ => !_)]
      refine counts_foldl grid.lattice ?_ echoes (grid, {}) rfl
      intro state echo same
      simp only [same, traced]
      cases grid.lattice.cellOf echo.point with
      | error fault => exact ⟨same, rfl, rfl⟩
      | ok goal =>
          obtain ⟨cast, skipped⟩ := counts_cast_ray state.1 start goal echo.obstacle
          refine ⟨(lattice_cast_ray _ _ _ _).trans same, ?_, ?_⟩
          · simp [cast, Except.toBool]
          · simp [skipped, Except.toBool]

end Echoes

section Fresh

theorem count_eq_card (grid : Grid Occupancy) (state : Occupancy) (cells : Finset Cell)
    (held : ∀ cell, cell ∈ cells ↔
      grid.lattice.contains cell = true ∧ grid.stateAt cell = state) :
    grid.cells.count state = cells.card := by
  let values : List.Vector Occupancy grid.cells.size := ⟨grid.cells.toList, Array.length_toList⟩
  have counted := Fin.card_filter_univ_eq_vector_get_eq_count state values
  have listed : values.toList.count state = grid.cells.count state := Array.count_toList
  rw [← listed, ← counted]
  have stored (index : Fin grid.cells.size) :
      grid.lattice.contains (grid.lattice.cellAt index) = true ∧
        grid.lattice.index (grid.lattice.cellAt index) = index ∧
        values.get index = grid.stateAt (grid.lattice.cellAt index) := by
    have below : index.val < grid.lattice.area := by
      rw [← grid.sized]
      exact index.isLt
    obtain ⟨inside, same⟩ := Lattice.index_cell_at below
    refine ⟨inside, same, ?_⟩
    have value := state_at_eq inside
    rw [same, Array.getElem?_eq_getElem index.isLt, Option.some.injEq] at value
    exact value
  refine Finset.card_bij (fun index _ => grid.lattice.cellAt index) ?_ ?_ ?_
  · intro index member
    obtain ⟨inside, -, value⟩ := stored index
    rw [Finset.mem_filter, value] at member
    exact (held _).mpr ⟨inside, member.2⟩
  · intro index _ other _ same
    apply Fin.ext
    rw [← (stored index).2.1, same, (stored other).2.1]
  · intro cell member
    obtain ⟨inside, state⟩ := (held cell).mp member
    have bound := index_lt_size inside
    obtain ⟨otherInside, same, value⟩ := stored ⟨_, bound⟩
    have back := Lattice.index_injective otherInside inside same
    refine ⟨⟨_, bound⟩, ?_, back⟩
    rw [Finset.mem_filter, value, back]
    exact ⟨Finset.mem_univ _, state⟩

def blank (lattice : Lattice) : Grid Occupancy :=
  ⟨lattice, Array.replicate lattice.area .unknown, Array.size_replicate⟩

theorem of_echoes_ok_iff {lattice : Lattice} {sensor : Point} {echoes : List Echo}
    {result : Grid Occupancy × RayTally} :
    ofEchoes lattice sensor echoes = .ok result ↔
      lattice.Usable ∧ (blank lattice).castFrame sensor echoes = result := by
  rw [← Lattice.validate_ok_iff]
  cases checked : lattice.validate with
  | error fault => simp [ofEchoes, filled_eq, checked, bind, Except.bind]
  | ok =>
      simp only [ofEchoes, filled_eq, checked, true_and]
      change Except.ok ((blank lattice).castFrame sensor echoes) = Except.ok result ↔ _
      rw [Except.ok.injEq]

theorem lattice_of_echoes {lattice : Lattice} {sensor : Point} {echoes : List Echo}
    {grid : Grid Occupancy} {rays : RayTally}
    (cast : ofEchoes lattice sensor echoes = .ok (grid, rays)) : grid.lattice = lattice := by
  obtain ⟨-, reached⟩ := of_echoes_ok_iff.mp cast
  have kept := lattice_cast_frame (blank lattice) sensor echoes
  rw [reached] at kept
  exact kept

theorem count_blank (lattice : Lattice) (state : Occupancy) (known : state ≠ .unknown) :
    (blank lattice).cells.count state = 0 := by
  rw [blank, Array.count_replicate, if_neg]
  simpa using known.symm

theorem state_at_blank (lattice : Lattice) (cell : Cell) :
    (blank lattice).stateAt cell = .unknown := by
  rw [stateAt, get]
  split_ifs <;> simp [blank]

/-- The tally of a frame that began with nothing known, by what its grid holds in the end. -/
theorem tally_of_echoes {lattice : Lattice} {sensor : Point} {echoes : List Echo}
    {grid : Grid Occupancy} {rays : RayTally}
    (cast : ofEchoes lattice sensor echoes = .ok (grid, rays)) :
    rays.cast = echoes.countP (lattice.traces sensor) ∧
      rays.skipped = (echoes.countP fun echo => !lattice.traces sensor echo) ∧
      rays.occupied = grid.cells.count .occupied ∧
      grid.cells.count .free ≤ rays.freed ∧
      rays.freed ≤ grid.cells.count .free + grid.cells.count .occupied := by
  obtain ⟨-, same⟩ := of_echoes_ok_iff.mp cast
  have counts := counts_cast_frame (blank lattice) sensor echoes
  have balanced := balanced_cast_frame (blank lattice) sensor echoes
  rw [same] at counts balanced
  obtain ⟨-, occupied, free, freed⟩ := balanced
  have noneFree := count_blank lattice .free (by decide)
  have noneOccupied := count_blank lattice .occupied (by decide)
  simp only [noneFree, noneOccupied] at occupied free freed
  refine ⟨counts.1, counts.2, ?_, ?_, ?_⟩ <;> omega

end Fresh

end Grid

end EvidenceGrid

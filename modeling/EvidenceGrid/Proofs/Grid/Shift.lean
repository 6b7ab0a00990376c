import EvidenceGrid.Proofs.Grid.InPlace

/-!
A roll is a shift of the window and nothing else. Either the wanted corner has no finite place on
the lattice, and the grid stays as it is, or the corner comes to its place and each cell takes the
value that its ground had before. How far a move goes is not said here, only that the cells follow
the shift that is reported.
-/

set_option autoImplicit false

namespace EvidenceGrid.Grid

variable {α : Type}

structure Shifts (grid : Grid α) (origin : Point) (entering : α) (rolled : Grid α) : Prop where
  corner : Lattice.SamePlace rolled.lattice.origin (grid.lattice.snap origin)
  shape : rolled.lattice = { grid.lattice with origin := rolled.lattice.origin }
  kept : ∀ cell old, grid.lattice.contains cell = true → grid.lattice.contains old = true →
    old.place = cell.place + grid.lattice.shiftTo origin → rolled.get cell = grid.get old
  entered : ∀ cell, grid.lattice.contains cell = true →
    (∀ old, grid.lattice.contains old = true →
      old.place ≠ cell.place + grid.lattice.shiftTo origin) → rolled.get cell = .ok entering
  still : grid.lattice.shiftTo origin = .zero → rolled = grid

section Cells

variable {grid : Grid α} {cell : Cell} {value : α}

theorem get_of_value (found : grid.valueAt? cell.place = some value) :
    grid.get cell = .ok value := by
  rw [get_eq_value_at, found]
  rfl

theorem covers_iff_place (lattice : Lattice) (place : Offset) :
    lattice.Covers place ↔ ∃ cell, lattice.contains cell = true ∧ cell.place = place := by
  constructor
  · intro covers
    have same : place = place.toCell.place := (Lattice.to_cell_eq_iff covers).mp rfl
    exact ⟨place.toCell, Lattice.contains_to_cell covers, same.symm⟩
  · rintro ⟨cell, inside, rfl⟩
    exact (Lattice.contains_iff_covers _ _).mp inside

variable {rolled : Grid α} {origin : Point} {entering : α} {shift : Offset}

theorem RolledBy.get_kept (done : grid.RolledBy origin entering rolled shift)
    (inside : grid.lattice.contains cell = true) {old : Cell}
    (oldInside : grid.lattice.contains old = true) (same : old.place = cell.place + shift) :
    rolled.get cell = grid.get old := by
  obtain ⟨value, found⟩ := Option.isSome_iff_exists.mp
    (value_at_isSome ((Lattice.contains_iff_covers _ _).mp oldInside))
  have moved := done.value_eq cell.place ((Lattice.contains_iff_covers _ _).mp inside)
  rw [← same, found, Option.getD_some] at moved
  rw [get_of_value moved, get_of_value found]

theorem RolledBy.get_entered (done : grid.RolledBy origin entering rolled shift)
    (inside : grid.lattice.contains cell = true)
    (outside : ¬grid.lattice.Covers (cell.place + shift)) : rolled.get cell = .ok entering := by
  have moved := done.value_eq cell.place ((Lattice.contains_iff_covers _ _).mp inside)
  have none : grid.valueAt? (cell.place + shift) = none := if_neg outside
  rw [none, Option.getD_none] at moved
  exact get_of_value moved

theorem RolledBy.corner_eq (usable : grid.lattice.Usable)
    (done : grid.RolledBy origin entering rolled shift) :
    Lattice.SamePlace rolled.lattice.origin (grid.lattice.snap origin) := by
  rw [done.lattice_eq, done.shift_eq]
  exact Lattice.same_place_settled usable done.finite

end Cells

variable {grid : Grid α} {origin : Point}

theorem roll_to_still (entering : α) (finite : (grid.lattice.snap origin).isFinite = true)
    (still : grid.lattice.shiftTo origin = .zero) :
    grid.rollTo origin entering = .ok (grid, grid.lattice.shiftTo origin) := by
  rw [rollTo]
  simp only [finite, still, Bool.not_true, Bool.false_eq_true, if_false, if_true]

theorem roll_to_ok (entering : α) (finite : (grid.lattice.snap origin).isFinite = true) :
    ∃ rolled, grid.rollTo origin entering = .ok (rolled, grid.lattice.shiftTo origin) := by
  cases ran : grid.rollTo origin entering with
  | ok result =>
      have done := rolled_by_of_roll_to ran
      exact ⟨result.1, congrArg Except.ok (Prod.ext rfl done.shift_eq)⟩
  | error fault =>
      have infinite := (roll_to_error_iff.mp ran).1
      rw [finite] at infinite
      cases infinite

theorem shifts_of_roll_to {entering : α} {rolled : Grid α} (usable : grid.lattice.Usable)
    (ran : grid.rollTo origin entering = .ok (rolled, grid.lattice.shiftTo origin)) :
    grid.Shifts origin entering rolled := by
  have done := rolled_by_of_roll_to ran
  refine ⟨done.corner_eq usable, ?_, ?_, ?_, ?_⟩
  · rw [done.lattice_eq]
  · intro cell old inside oldInside same
    exact done.get_kept inside oldInside same
  · intro cell inside nowhere
    apply done.get_entered inside
    rw [covers_iff_place]
    rintro ⟨old, oldInside, same⟩
    exact nowhere old oldInside same
  · intro still
    rw [roll_to_still entering done.finite still] at ran
    cases ran
    rfl

/-- A roll is refused, with nothing written, when the wanted corner has no finite place on the
lattice. Otherwise it is a shift of the window by the cells that it reports; all its numbers are
words and no row's move leaves the grid. -/
theorem roll_shifts_window {grid : Grid α} (usable : grid.lattice.validate = .ok ())
    (origin : Point) (entering : α) :
    ((grid.lattice.snap origin).isFinite = false →
      grid.rollTo origin entering = .error (.geometry (.originNotFinite origin)) ∧
        (Steps.roll origin entering).run grid.store =
          .error (.refused (.geometry (.originNotFinite origin))) grid.store) ∧
      ((grid.lattice.snap origin).isFinite = true →
        ∃ rolled, grid.rollTo origin entering = .ok (rolled, grid.lattice.shiftTo origin) ∧
          (Steps.roll origin entering).run grid.store =
            .ok (grid.lattice.shiftTo origin) rolled.store ∧
          RollFits grid.lattice (grid.lattice.shiftTo origin) ∧
          grid.Shifts origin entering rolled) := by
  have sound := (Lattice.validate_ok_iff _).mp usable
  constructor
  · intro infinite
    have ran : grid.rollTo origin entering = .error (.geometry (.originNotFinite origin)) :=
      roll_to_error_iff.mpr ⟨infinite, rfl⟩
    rw [roll_run, ran]
    exact ⟨rfl, rfl⟩
  · intro finite
    obtain ⟨rolled, ran⟩ := roll_to_ok entering finite
    refine ⟨rolled, ran, ?_, roll_fits sound origin, shifts_of_roll_to sound ran⟩
    rw [roll_run, ran]
    rfl

theorem roll_shifts_window_aside :
    let grid : Grid Nat := ⟨⟨3, 2, 1, .zero⟩, #[0, 1, 2, 3, 4, 5], rfl⟩
    grid.lattice.validate = .ok () ∧
      (grid.lattice.snap ⟨1 / 0, 0⟩).isFinite = false ∧
      (Steps.roll ⟨1 / 0, 0⟩ 9).run grid.store =
        .error (.refused (.geometry (.originNotFinite ⟨1 / 0, 0⟩))) grid.store ∧
      (grid.lattice.snap ⟨1, -1⟩).isFinite = true ∧
      ∃ rolled, (Steps.roll ⟨1, -1⟩ 9).run grid.store = .ok ⟨1, -1⟩ rolled.store ∧
        rolled.cells = #[9, 9, 9, 1, 2, 9] ∧ RollFits grid.lattice ⟨1, -1⟩ ∧
        grid.Shifts ⟨1, -1⟩ 9 rolled := by
  intro grid
  have usable : grid.lattice.validate = .ok () := by decide +kernel
  have infinite : (grid.lattice.snap ⟨1 / 0, 0⟩).isFinite = false := by decide +kernel
  have finite : (grid.lattice.snap ⟨1, -1⟩).isFinite = true := by decide +kernel
  have shift : grid.lattice.shiftTo ⟨1, -1⟩ = ⟨1, -1⟩ := by decide +kernel
  have known : (grid.rollTo ⟨1, -1⟩ 9).map (fun result => result.1.cells) =
      .ok #[9, 9, 9, 1, 2, 9] := by decide +kernel
  have refused := ((roll_shifts_window usable ⟨1 / 0, 0⟩ 9).1 infinite).2
  obtain ⟨rolled, ran, stored, fits, shifts⟩ := (roll_shifts_window usable ⟨1, -1⟩ 9).2 finite
  rw [shift] at stored fits
  rw [ran] at known
  exact ⟨usable, infinite, refused, finite, rolled, stored, Except.ok.inj known, fits, shifts⟩

end EvidenceGrid.Grid

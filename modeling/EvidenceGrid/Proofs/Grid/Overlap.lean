import EvidenceGrid.Proofs.Grid.Shift

/-!
How long a shift is, and what it leaves of the old window. A long move is held to the side of the
map, and the side is converted to binary32 for that. A side of up to 24 digits stays what it is,
and then a long move leaves nothing. A longer side is rounded: rounded down it leaves columns or
rows of the old window however far the move goes, and rounded up the shift is longer than the map.
-/

set_option autoImplicit false

namespace EvidenceGrid

open Binary32

/-! ## Held moves -/

section Held

variable {side : UInt32} {cells shift : ℤ}

theorem to_signed_whole {value : Float32} {whole : ℤ} (finite : value.isFinite = true)
    (same : number value = whole) (low : -2 ^ 31 ≤ whole) (high : whole < 2 ^ 31) :
    toSigned value = whole := by
  rw [to_signed_value finite, same]
  split_ifs with negative
  · have below : whole < 0 := by exact_mod_cast negative
    rw [← Int.cast_neg, ← Int.floor_toNat, Int.floor_intCast]
    omega
  · have nonneg : 0 ≤ whole := by exact_mod_cast not_lt.mp negative
    rw [← Int.floor_toNat, Int.floor_intCast]
    omega

def Lattice.held (side : UInt32) : ℤ := toSigned side.toFloat32

theorem held_value (few : side.toNat ≤ 2 ^ 28) :
    number side.toFloat32 = Lattice.held side ∧ 0 ≤ Lattice.held side ∧
      Lattice.held side ≤ 2 ^ 28 := by
  have finite := of_uint32_finite side
  obtain ⟨nonneg, small⟩ := side_number_le few
  obtain ⟨whole, same⟩ := whole_of_rounded side.toNat
  rw [← (of_uint32_computes side).number_eq finite] at same
  rw [same] at nonneg small
  have low : 0 ≤ whole := by exact_mod_cast nonneg
  have high : whole ≤ 2 ^ 28 := by exact_mod_cast small
  rw [Lattice.held, to_signed_whole finite same (by omega) (by omega)]
  exact ⟨same, low, high⟩

theorem held_eq_rounded (few : side.toNat ≤ 2 ^ 28) :
    (Lattice.held side : ℚ) = rounded side.toNat := by
  rw [← (held_value few).1, (of_uint32_computes side).number_eq (of_uint32_finite side)]

theorem held_eq_iff (few : side.toNat ≤ 2 ^ 28) :
    Lattice.held side = side.toNat ↔ OnGrid side.toNat := by
  have value := held_eq_rounded few
  constructor
  · intro same
    rw [same, Int.cast_natCast] at value
    rw [value]
    exact rounded_on_grid _
  · intro onGrid
    rw [rounded_of_on_grid onGrid] at value
    exact_mod_cast value

theorem confined_shift_value (few : side.toNat ≤ 2 ^ 28) {value : Float32}
    (finite : value.isFinite = true) (same : number value = cells) :
    toSigned (confine (-side.toFloat32) side.toFloat32 value) =
      min (max cells (-Lattice.held side)) (Lattice.held side) := by
  have sideFinite := of_uint32_finite side
  obtain ⟨lowFinite, low⟩ := neg_value sideFinite
  obtain ⟨heldFinite, held⟩ := confine_value lowFinite sideFinite finite
  obtain ⟨sideValue, nonneg, small⟩ := held_value few
  rw [low, same, sideValue] at held
  apply to_signed_whole heldFinite
  · rw [held]
    push_cast
    rfl
  · omega
  · omega

/-- A count of cells is a binary32 number, so rounding a side does not bring it to the other
side of it. -/
theorem held_order (few : side.toNat ≤ 2 ^ 28) (counted : OnGrid (cells : ℚ)) :
    (|cells| < side.toNat → |cells| ≤ Lattice.held side) ∧
      (side.toNat ≤ |cells| → Lattice.held side ≤ |cells|) := by
  have value := held_eq_rounded few
  have size : OnGrid ((|cells| : ℤ) : ℚ) := by
    rcases abs_choice cells with same | same
    · rwa [same]
    · rw [same, Int.cast_neg]
      exact on_grid_neg counted
  constructor
  · intro short
    have cast : ((|cells| : ℤ) : ℚ) ≤ side.toNat := by exact_mod_cast short.le
    have ordered := rounded_mono cast
    rw [rounded_of_on_grid size, ← value] at ordered
    exact_mod_cast ordered
  · intro long
    have cast : (side.toNat : ℚ) ≤ ((|cells| : ℤ) : ℚ) := by exact_mod_cast long
    have ordered := rounded_mono cast
    rw [rounded_of_on_grid size, ← value] at ordered
    exact_mod_cast ordered

/-- The shift that is reported for a move by so many cells. Only a side that binary32 has is
the most that is reported; for any other one a long move never reports the side itself. -/
structure Reports (side : UInt32) (cells shift : ℤ) : Prop where
  short : |cells| < side.toNat → shift = cells
  ahead : side.toNat ≤ cells → shift = Lattice.held side
  back : cells ≤ -side.toNat → shift = -Lattice.held side
  exact : OnGrid side.toNat →
    |shift| ≤ side.toNat ∧ (side.toNat ≤ |cells| → |shift| = side.toNat)
  inexact : ¬OnGrid side.toNat → side.toNat ≤ |cells| → |shift| ≠ side.toNat

theorem reports_confined (few : side.toNat ≤ 2 ^ 28) (counted : OnGrid (cells : ℚ)) :
    Reports side cells (min (max cells (-Lattice.held side)) (Lattice.held side)) := by
  obtain ⟨-, nonneg, -⟩ := held_value few
  obtain ⟨within, beyond⟩ := held_order few counted
  have short (below : |cells| < side.toNat) :
      min (max cells (-Lattice.held side)) (Lattice.held side) = cells := by
    obtain ⟨low, high⟩ := abs_le.mp (within below)
    omega
  have ahead (above : side.toNat ≤ cells) :
      min (max cells (-Lattice.held side)) (Lattice.held side) = Lattice.held side := by
    have reached := beyond (above.trans (le_abs_self cells))
    rw [abs_of_nonneg (by omega)] at reached
    omega
  have back (below : cells ≤ -side.toNat) :
      min (max cells (-Lattice.held side)) (Lattice.held side) = -Lattice.held side := by
    have reached := beyond (by rw [abs_of_nonpos (by omega)]; omega)
    rw [abs_of_nonpos (by omega)] at reached
    omega
  have long (far : side.toNat ≤ |cells|) :
      |min (max cells (-Lattice.held side)) (Lattice.held side)| = Lattice.held side := by
    rcases le_abs.mp far with above | below
    · rw [ahead above, abs_of_nonneg nonneg]
    · rw [back (by omega), abs_neg, abs_of_nonneg nonneg]
  refine ⟨short, ahead, back, ?_, ?_⟩
  · intro digits
    have same := (held_eq_iff few).mpr digits
    rw [same] at long ⊢
    refine ⟨?_, long⟩
    rw [abs_le]
    omega
  · intro rounding far same
    rw [long far] at same
    exact rounding ((held_eq_iff few).mp same)

end Held

namespace Lattice

variable {lattice : Lattice} {origin : Point}

theorem covers_add_iff (lattice : Lattice) (place shift : Offset) :
    lattice.Covers (place + shift) ↔
      (0 ≤ place.x + shift.x ∧ place.x + shift.x < lattice.width.toNat) ∧
        (0 ≤ place.y + shift.y ∧ place.y + shift.y < lattice.height.toNat) :=
  Iff.rfl

theorem cells_to_value (usable : lattice.Usable)
    (finite : (lattice.cellsTo origin).isFinite = true) :
    number (lattice.cellsTo origin).x = (lattice.counts origin).x ∧
      number (lattice.cellsTo origin).y = (lattice.counts origin).y := by
  obtain ⟨xFinite, yFinite⟩ := (finite_iff _).mp finite
  exact ⟨axis_cells_value usable.finite usable.positive xFinite,
    axis_cells_value usable.finite usable.positive yFinite⟩

theorem shift_reports (usable : lattice.Usable)
    (finite : (lattice.cellsTo origin).isFinite = true) :
    Reports lattice.width (lattice.counts origin).x (lattice.shiftTo origin).x ∧
      Reports lattice.height (lattice.counts origin).y (lattice.shiftTo origin).y := by
  obtain ⟨xFinite, yFinite⟩ := (finite_iff _).mp finite
  obtain ⟨columns, rows⟩ := sides_bounded usable
  obtain ⟨xValue, yValue⟩ := cells_to_value usable finite
  have across := confined_shift_value columns xFinite xValue
  have up := confined_shift_value rows yFinite yValue
  rw [shiftTo, Point.toOffset, across, up]
  exact ⟨reports_confined columns (xValue ▸ on_grid_number _),
    reports_confined rows (yValue ▸ on_grid_number _)⟩

end Lattice

/-! ## What is left -/

namespace Grid

variable {α : Type}

def Holds (grid : Grid α) (value : α) : Prop :=
  ∀ cell, grid.lattice.contains cell = true → grid.get cell = .ok value

section Overlap

variable {grid rolled : Grid α} {origin : Point} {entering : α} {shift : Offset}

theorem holds_of_long_shift (done : grid.RolledBy origin entering rolled shift)
    (long : grid.lattice.width.toNat ≤ |shift.x| ∨ grid.lattice.height.toNat ≤ |shift.y|) :
    rolled.Holds entering := by
  intro cell inside
  have own : grid.lattice.contains cell = true := by
    rw [done.lattice_eq] at inside
    exact inside
  apply done.get_entered own
  obtain ⟨⟨left, right⟩, bottom, top⟩ := (Lattice.contains_iff_covers _ _).mp own
  rw [Lattice.covers_add_iff]
  rintro ⟨⟨oldLeft, oldRight⟩, oldBottom, oldTop⟩
  rcases long with across | up
  · rcases le_abs.mp across with ahead | back <;> omega
  · rcases le_abs.mp up with ahead | back <;> omega

theorem kept_of_short_shift (done : grid.RolledBy origin entering rolled shift)
    (across : |shift.x| < grid.lattice.width.toNat)
    (up : |shift.y| < grid.lattice.height.toNat) :
    ∃ cell old, grid.lattice.contains cell = true ∧ grid.lattice.contains old = true ∧
      old.place = cell.place + shift ∧ rolled.get cell = grid.get old := by
  obtain ⟨back, ahead⟩ := abs_lt.mp across
  obtain ⟨down, above⟩ := abs_lt.mp up
  let place : Offset := ⟨max 0 (-shift.x), max 0 (-shift.y)⟩
  have covers : grid.lattice.Covers place := by
    refine ⟨⟨le_max_left _ _, max_lt ?_ ?_⟩, le_max_left _ _, max_lt ?_ ?_⟩ <;> omega
  have covered : grid.lattice.Covers (place + shift) := by
    rw [Lattice.covers_add_iff]
    simp only [place]
    omega
  obtain ⟨cell, inside, own⟩ := (covers_iff_place _ _).mp covers
  obtain ⟨old, oldInside, ground⟩ := (covers_iff_place _ _).mp covered
  rw [← own] at ground
  exact ⟨cell, old, inside, oldInside, ground, done.get_kept inside oldInside ground⟩

theorem get_of_filled {lattice : Lattice} {value : α} (made : filled lattice value = .ok grid)
    {cell : Cell} (inside : grid.lattice.contains cell = true) : grid.get cell = .ok value := by
  rw [filled_eq] at made
  cases checked : lattice.validate with
  | error fault =>
      rw [checked] at made
      cases made
  | ok passed =>
      rw [checked] at made
      cases made
      rw [get, dif_pos inside]
      exact congrArg Except.ok (Array.getElem_replicate _)

end Overlap

/-- A roll reports on each axis the cells that it moved the corner by, held to the side of the map
as binary32 has it. A shift of a side or more leaves no value of the old window, and a shorter one
leaves some. So a move of a side or more leaves nothing and is reported as that side, as long as
binary32 has the side; for a side that it rounds the report is always another one. -/
theorem roll_reports {grid rolled : Grid α} {origin : Point} {entering : α} {shift : Offset}
    (usable : grid.lattice.validate = .ok ())
    (ran : grid.rollTo origin entering = .ok (rolled, shift)) :
    ∃ cells : Offset, (number (grid.lattice.cellsTo origin).x = cells.x ∧
        number (grid.lattice.cellsTo origin).y = cells.y) ∧
      (Reports grid.lattice.width cells.x shift.x ∧
        Reports grid.lattice.height cells.y shift.y) ∧
      (grid.lattice.width.toNat ≤ |shift.x| ∨ grid.lattice.height.toNat ≤ |shift.y| →
        rolled.Holds entering) ∧
      (|shift.x| < grid.lattice.width.toNat → |shift.y| < grid.lattice.height.toNat →
        ∃ cell old, grid.lattice.contains cell = true ∧ grid.lattice.contains old = true ∧
          old.place = cell.place + shift ∧ rolled.get cell = grid.get old) ∧
      (OnGrid grid.lattice.width.toNat → grid.lattice.width.toNat ≤ |cells.x| →
        rolled.Holds entering) ∧
      (OnGrid grid.lattice.height.toNat → grid.lattice.height.toNat ≤ |cells.y| →
        rolled.Holds entering) := by
  have sound := (Lattice.validate_ok_iff _).mp usable
  have done := rolled_by_of_roll_to ran
  obtain ⟨-, -, finite⟩ := Lattice.finite_of_snap done.finite
  obtain ⟨columns, rows⟩ := Lattice.shift_reports sound finite
  rw [← done.shift_eq] at columns rows
  refine ⟨grid.lattice.counts origin, Lattice.cells_to_value sound finite, ⟨columns, rows⟩,
    holds_of_long_shift done, kept_of_short_shift done, ?_, ?_⟩
  · intro digits far
    exact holds_of_long_shift done (.inl ((columns.exact digits).2 far).ge)
  · intro digits far
    exact holds_of_long_shift done (.inr ((rows.exact digits).2 far).ge)

theorem roll_reports_far :
    let grid : Grid Nat := ⟨⟨3, 2, 1, .zero⟩, #[0, 1, 2, 3, 4, 5], rfl⟩
    grid.lattice.validate = .ok () ∧
      ∃ rolled, grid.rollTo ⟨-1e12, 1⟩ 9 = .ok (rolled, ⟨-3, 1⟩) ∧ rolled.Holds 9 := by
  intro grid
  have usable : grid.lattice.validate = .ok () := by decide +kernel
  let rolled : Grid Nat := ⟨⟨3, 2, 1, ⟨-1e12, 1⟩⟩, #[9, 9, 9, 9, 9, 9], rfl⟩
  have ran : grid.rollTo ⟨-1e12, 1⟩ 9 = .ok (rolled, ⟨-3, 1⟩) := by decide +kernel
  obtain ⟨cells, -, -, emptied, -⟩ := roll_reports usable ran
  exact ⟨usable, rolled, ran, emptied (.inl (by decide))⟩

/-- A map with one column more than binary32 counts. Moved as far as may be, it keeps the value of
its last column; with two columns more, the shift is longer than the map. -/
theorem roll_keeps_column :
    let lattice : Lattice := ⟨16777217, 1, 1, .zero⟩
    let wider : Lattice := ⟨16777219, 1, 1, .zero⟩
    (lattice.validate = .ok () ∧ 16777217 ≤ number (lattice.cellsTo ⟨1e12, 0⟩).x ∧
      ∃ grid rolled : Grid Bool, filled lattice true = .ok grid ∧
        grid.rollTo ⟨1e12, 0⟩ false = .ok (rolled, ⟨16777216, 0⟩) ∧
        rolled.get ⟨0, 0⟩ = .ok true) ∧
      wider.validate = .ok () ∧ (wider.snap ⟨1e12, 0⟩).isFinite = true ∧
        wider.shiftTo ⟨1e12, 0⟩ = ⟨16777220, 0⟩ := by
  intro lattice wider
  have usable : lattice.validate = .ok () := by decide +kernel
  have finite : (lattice.snap ⟨1e12, 0⟩).isFinite = true := by decide +kernel
  have shift : lattice.shiftTo ⟨1e12, 0⟩ = ⟨16777216, 0⟩ := by decide +kernel
  let grid : Grid Bool := ⟨lattice, Array.replicate lattice.area true, Array.size_replicate⟩
  have made : filled lattice true = .ok grid := by
    rw [filled_eq, usable]
    rfl
  obtain ⟨rolled, ran⟩ : ∃ rolled, grid.rollTo ⟨1e12, 0⟩ false =
      .ok (rolled, lattice.shiftTo ⟨1e12, 0⟩) := roll_to_ok false finite
  have done := rolled_by_of_roll_to ran
  have first : grid.lattice.contains ⟨0, 0⟩ = true := by decide +kernel
  have last : grid.lattice.contains ⟨16777216, 0⟩ = true := by decide +kernel
  have kept := done.get_kept first last (by decide +kernel)
  rw [get_of_filled made last] at kept
  rw [shift] at ran
  exact ⟨⟨usable, by decide +kernel, grid, rolled, made, ran, kept⟩, by decide +kernel,
    by decide +kernel, by decide +kernel⟩

end Grid

end EvidenceGrid

import EvidenceGrid.Proofs.Binary32.Extended
import EvidenceGrid.Proofs.Lattice.Cell
import EvidenceGrid.Proofs.Segment.Words

/-!
A roll keeps to its arrays and to signed machine words. A shift is held to the sides of the
map before it becomes a whole number, whatever the target is, and a row that is moved lies in
the old window and in the new one, so both of its runs lie in the grid. That the moved values
are the right ones is not followed here.
-/

set_option autoImplicit false

namespace EvidenceGrid

open Binary32

/-! ## Shifts -/

section Shift

theorem is_word_to_signed (value : Float32) : IsWord (toSigned value) := by
  rw [toSigned, IsWord]
  split_ifs <;> omega

theorem side_number_le {side : UInt32} (few : side.toNat ≤ 2 ^ 28) :
    0 ≤ number side.toFloat32 ∧ number side.toFloat32 ≤ 2 ^ 28 := by
  have cast : (side.toNat : ℚ) ≤ 2 ^ (28 : ℤ) := by exact_mod_cast few
  have high := rounded_mono cast
  have low := rounded_mono (show (0 : ℚ) ≤ side.toNat from Nat.cast_nonneg _)
  rw [rounded_zero] at low
  rw [rounded_of_on_grid (on_grid_two_pow (by norm_num))] at high
  rw [(of_uint32_computes side).number_eq (of_uint32_finite side)]
  exact ⟨low, by exact_mod_cast high⟩

theorem sides_in_order {side : UInt32} (few : side.toNat ≤ 2 ^ 28) :
    -side.toFloat32 ≤ side.toFloat32 := by
  obtain ⟨lowFinite, low⟩ := neg_value (of_uint32_finite side)
  obtain ⟨nonneg, -⟩ := side_number_le few
  rw [le_iff lowFinite (of_uint32_finite side), low]
  linarith

theorem confined_shift_bounds {side : UInt32} (few : side.toNat ≤ 2 ^ 28) (value : Float32) :
    -2 ^ 28 ≤ toSigned (confine (-side.toFloat32) side.toFloat32 value) ∧
      toSigned (confine (-side.toFloat32) side.toFloat32 value) ≤ 2 ^ 28 := by
  have sideFinite := of_uint32_finite side
  obtain ⟨lowFinite, low⟩ := neg_value sideFinite
  obtain ⟨-, small⟩ := side_number_le few
  obtain ⟨finite, above, below⟩ :=
    confine_between lowFinite sideFinite (sides_in_order few) value
  rw [le_iff lowFinite finite, low] at above
  rw [le_iff finite sideFinite] at below
  have down : ⌊-number (confine (-side.toFloat32) side.toFloat32 value)⌋₊ ≤ 2 ^ 28 :=
    Nat.floor_le_of_le (by push_cast; linarith)
  have up : ⌊number (confine (-side.toFloat32) side.toFloat32 value)⌋₊ ≤ 2 ^ 28 :=
    Nat.floor_le_of_le (by push_cast; linarith)
  rw [to_signed_value finite]
  split_ifs <;> omega

/-- However far the target is, and also when it is no number, the shift is no longer than a
side can be. -/
theorem Lattice.shift_to_bounds {lattice : Lattice} (usable : lattice.Usable) (target : Point) :
    (-2 ^ 28 ≤ (lattice.shiftTo target).x ∧ (lattice.shiftTo target).x ≤ 2 ^ 28) ∧
      (-2 ^ 28 ≤ (lattice.shiftTo target).y ∧ (lattice.shiftTo target).y ≤ 2 ^ 28) := by
  obtain ⟨columns, rows⟩ := sides_bounded usable
  exact ⟨confined_shift_bounds columns _, confined_shift_bounds rows _⟩

end Shift

/-! ## Rows -/

namespace Grid

structure RowMove.Inside (move : RowMove) (size : Nat) : Prop where
  length : 0 ≤ move.length
  target : 0 ≤ move.target ∧ move.target + move.length ≤ size
  source : 0 ≤ move.source ∧ move.source + move.length ≤ size

/-- Every number on the way to a row's move is a word. -/
structure RowFits (lattice : Lattice) (shift : Offset) (left right row : Int) : Prop where
  newRow : IsWord row ∧ IsWord (row * lattice.width.toNat) ∧
    IsWord (row * lattice.width.toNat + left)
  oldRow : IsWord (row + shift.y) ∧ IsWord ((row + shift.y) * lattice.width.toNat) ∧
    IsWord ((row + shift.y) * lattice.width.toNat + left) ∧
    IsWord ((row + shift.y) * lattice.width.toNat + left + shift.x)
  length : IsWord (right - left)

def keptColumns (lattice : Lattice) (shift : Offset) : Int × Int :=
  (within lattice.width.toNat (-shift.x),
    within lattice.width.toNat (lattice.width.toNat - shift.x))

def keptRows (lattice : Lattice) (shift : Offset) : Int × Int :=
  (within lattice.height.toNat (-shift.y),
    within lattice.height.toNat (lattice.height.toNat - shift.y))

/-- Every number of a roll is a word, and no row's move leaves the grid. -/
structure RollFits (lattice : Lattice) (shift : Offset) : Prop where
  sides : IsWord lattice.width.toNat ∧ IsWord lattice.height.toNat
  columns : IsWord shift.x ∧ IsWord (-shift.x) ∧ IsWord (lattice.width.toNat - shift.x)
  rows : IsWord shift.y ∧ IsWord (-shift.y) ∧ IsWord (lattice.height.toNat - shift.y)
  columnBounds : IsWord (keptColumns lattice shift).1 ∧ IsWord (keptColumns lattice shift).2
  rowBounds : IsWord (keptRows lattice shift).1 ∧ IsWord (keptRows lattice shift).2
  moves : ∀ move ∈ rowMoves lattice shift, move.Inside lattice.area ∧
    ∃ row, ((keptRows lattice shift).1 ≤ row ∧ row < (keptRows lattice shift).2) ∧
      move = rowMove lattice shift (keptColumns lattice shift).1
        (keptColumns lattice shift).2 row ∧
      RowFits lattice shift (keptColumns lattice shift).1 (keptColumns lattice shift).2 row

variable {lattice : Lattice} {shift : Offset} {left right row : Int}

theorem kept_of_mem_row_moves {move : RowMove} (member : move ∈ rowMoves lattice shift) :
    ∃ row, ((keptRows lattice shift).1 ≤ row ∧ row < (keptRows lattice shift).2) ∧
      move = rowMove lattice shift (keptColumns lattice shift).1
        (keptColumns lattice shift).2 row ∧
      Kept lattice shift (keptColumns lattice shift).1 (keptColumns lattice shift).2 row ∧
      row < lattice.height.toNat := by
  rw [row_moves_eq] at member
  simp only at member
  split_ifs at member with some
  · obtain ⟨step, below, rfl⟩ := List.mem_map.mp member
    rw [List.mem_range] at below
    simp only [keptColumns, keptRows]
    simp only [within] at some below ⊢
    refine ⟨_, ⟨?_, ?_⟩, rfl, ⟨?_, ?_, ?_, ?_, ?_⟩, ?_⟩ <;> omega
  · cases member

theorem row_bounds (inside : 0 ≤ row) (below : row < lattice.height.toNat) :
    0 ≤ row * lattice.width.toNat ∧
      row * lattice.width.toNat + lattice.width.toNat ≤ lattice.area := by
  have product : (row + 1) * lattice.width.toNat ≤ lattice.height.toNat * lattice.width.toNat :=
    mul_le_mul_of_nonneg_right (by omega) (by omega)
  rw [Lattice.area]
  push_cast
  exact ⟨mul_nonneg inside (by omega), by linarith⟩

theorem inside_of_kept (kept : Kept lattice shift left right row)
    (below : row < lattice.height.toNat) :
    (rowMove lattice shift left right row).Inside lattice.area := by
  obtain ⟨ordered, ⟨start, stop⟩, ⟨oldStart, oldStop⟩, inside, oldInside, oldBelow⟩ := kept
  -- A kept run does not pass the ends of its row, in the new window and in the old one.
  have newRow := row_bounds inside below
  have oldRow := row_bounds oldInside oldBelow
  constructor <;> simp only [rowMove] <;> omega

theorem row_fits (usable : lattice.Usable) (kept : Kept lattice shift left right row)
    (below : row < lattice.height.toNat) : RowFits lattice shift left right row := by
  have sides := Lattice.sides_bounded usable
  have area : lattice.area ≤ 2 ^ 28 := usable.bounded
  obtain ⟨ordered, ⟨start, stop⟩, ⟨oldStart, oldStop⟩, inside, oldInside, oldBelow⟩ := kept
  have newRow := row_bounds inside below
  have oldRow := row_bounds oldInside oldBelow
  constructor <;> simp only [IsWord] <;> omega

theorem roll_fits (usable : lattice.Usable) (target : Point) :
    RollFits lattice (lattice.shiftTo target) := by
  obtain ⟨columns, rows⟩ := Lattice.sides_bounded usable
  obtain ⟨across, up⟩ := Lattice.shift_to_bounds usable target
  refine ⟨?_, ?_, ?_, ?_, ?_, ?_⟩
  · simp only [IsWord]
    omega
  · simp only [IsWord]
    omega
  · simp only [IsWord]
    omega
  · simp only [IsWord, keptColumns, within]
    omega
  · simp only [IsWord, keptRows, within]
    omega
  · intro move member
    obtain ⟨row, between, rfl, kept, below⟩ := kept_of_mem_row_moves member
    exact ⟨inside_of_kept kept below, row, between, rfl, row_fits usable kept below⟩

end Grid

end EvidenceGrid

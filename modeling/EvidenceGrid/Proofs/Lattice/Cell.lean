import EvidenceGrid.Proofs.Grid.Roll
import EvidenceGrid.Proofs.Lattice.Snap

/-!
The cells of a lattice: their signed positions, where their values are stored, and
the cell of a world point. On a usable lattice positions do not wrap and no two
cells share a value. A point is compared with a side after the side was rounded to
binary32, which may make it longer; a whole number below the rounded side is below
the side all the same, because rounding keeps order and whole numbers stay.
-/

set_option autoImplicit false

namespace EvidenceGrid.Lattice

open EvidenceGrid.Binary32

section Position

variable {lattice : Lattice} {cell : Cell}

theorem sides_bounded (usable : lattice.Usable) :
    lattice.width.toNat ≤ 2 ^ 28 ∧ lattice.height.toNat ≤ 2 ^ 28 := by
  have columns : 0 < lattice.width.toNat :=
    Nat.pos_of_ne_zero fun none => usable.columns (UInt32.toNat_inj.mp none)
  have rows : 0 < lattice.height.toNat :=
    Nat.pos_of_ne_zero fun none => usable.rows (UInt32.toNat_inj.mp none)
  have bounded : lattice.width.toNat * lattice.height.toNat ≤ 2 ^ 28 := usable.bounded
  exact ⟨(Nat.le_mul_of_pos_right _ rows).trans bounded,
    (Nat.le_mul_of_pos_left _ columns).trans bounded⟩

theorem to_offset_eq_place (usable : lattice.Usable) (inside : lattice.contains cell = true) :
    cell.toOffset = cell.place := by
  obtain ⟨width, height⟩ := sides_bounded usable
  obtain ⟨⟨-, column⟩, -, row⟩ := (contains_iff_covers lattice cell).mp inside
  simp only [Cell.place] at column row
  have signed (coordinate : UInt32) (small : coordinate.toNat < 2 ^ 28) :
      coordinate.toInt32.toInt = coordinate.toNat :=
    BitVec.toInt_eq_toNat_of_lt (by
      change 2 * coordinate.toNat < 2 ^ 32
      omega)
  rw [Cell.toOffset, signed _ (by omega), signed _ (by omega)]
  rfl

theorem to_cell_eq_iff {place : Offset} (covers : lattice.Covers place) :
    place.toCell = cell ↔ place = cell.place := by
  obtain ⟨⟨left, right⟩, bottom, top⟩ := covers
  have columns : lattice.width.toNat < 2 ^ 32 := lattice.width.toNat_lt
  have rows : lattice.height.toNat < 2 ^ 32 := lattice.height.toNat_lt
  have back (coordinate : ℤ) (nonneg : 0 ≤ coordinate) (small : coordinate < 2 ^ 32) :
      ((UInt32.ofInt coordinate).toNat : ℤ) = coordinate := by
    rw [UInt32.ofInt, UInt32.toNat_ofNat', Int.emod_eq_of_lt nonneg small]
    omega
  constructor
  · rintro rfl
    apply Offset.eq_of_coordinates
    · exact (back place.x left (by omega)).symm
    · exact (back place.y bottom (by omega)).symm
  · rintro rfl
    have same (coordinate : UInt32) : UInt32.ofInt coordinate.toNat = coordinate := by
      rw [← UInt32.toNat_inj]
      exact_mod_cast back coordinate.toNat (by omega) (by exact_mod_cast coordinate.toNat_lt)
    rw [Offset.toCell, Cell.place, same, same]

theorem contains_to_cell {place : Offset} (covers : lattice.Covers place) :
    lattice.contains place.toCell = true := by
  have same : place = place.toCell.place := (to_cell_eq_iff covers).mp rfl
  rw [contains_iff_covers, ← same]
  exact covers

theorem place_injective {other : Cell} : cell.place = other.place ↔ cell = other := by
  constructor
  · intro same
    have column := congrArg Offset.x same
    have row := congrArg Offset.y same
    simp only [Cell.place, Int.natCast_inj, UInt32.toNat_inj] at column row
    cases cell
    cases other
    cases column
    cases row
    rfl
  · rintro rfl
    rfl

theorem index_injective {other : Cell} (inside : lattice.contains cell = true)
    (otherInside : lattice.contains other = true)
    (same : lattice.index cell = lattice.index other) : cell = other := by
  obtain ⟨⟨-, right⟩, -⟩ := (contains_iff_covers lattice cell).mp inside
  obtain ⟨⟨-, otherRight⟩, -⟩ := (contains_iff_covers lattice other).mp otherInside
  have positions : cell.place.y * lattice.width.toNat + cell.place.x =
      other.place.y * lattice.width.toNat + other.place.x := by
    rw [← position, ← position, position_place, position_place, same]
  -- The other cell is a run of one place on its row.
  have left : 0 ≤ cell.place.x := Int.natCast_nonneg _
  have otherLeft : 0 ≤ other.place.x := Int.natCast_nonneg _
  have run := row_of_position left right otherLeft (Int.add_one_le_of_lt otherRight) |>.mp
    ⟨positions.ge, by rw [positions, ← add_assoc]; exact lt_add_one _⟩
  exact place_injective.mp (Offset.eq_of_coordinates (by omega) run.1)

theorem row_end_le {width last row above : ℕ} (stop : last ≤ width) (lower : row < above) :
    row * width + last ≤ above * width := by
  calc row * width + last
      ≤ row * width + width := Nat.add_le_add_left stop _
    _ = (row + 1) * width := (Nat.succ_mul _ _).symm
    _ ≤ above * width := Nat.mul_le_mul_right _ lower

theorem index_cell_at {index : Nat} (below : index < lattice.area) :
    lattice.contains (lattice.cellAt index) = true ∧
      lattice.index (lattice.cellAt index) = index := by
  rw [area] at below
  have columns : 0 < lattice.width.toNat := Nat.pos_of_mul_pos_right (Nat.zero_lt_of_lt below)
  have column := Nat.mod_lt index columns
  have row : index / lattice.width.toNat < lattice.height.toNat :=
    Nat.div_lt_of_lt_mul below
  have columnSmall := column.trans lattice.width.toNat_lt
  have rowSmall := row.trans lattice.height.toNat_lt
  have x : (lattice.cellAt index).x.toNat = index % lattice.width.toNat :=
    UInt32.toNat_ofNat_of_lt' columnSmall
  have y : (lattice.cellAt index).y.toNat = index / lattice.width.toNat :=
    UInt32.toNat_ofNat_of_lt' rowSmall
  constructor
  · simp only [contains, Bool.and_eq_true, decide_eq_true_eq, UInt32.lt_iff_toNat_lt, x, y]
    exact ⟨column, row⟩
  · rw [Lattice.index, x, y, Nat.mul_comm]
    exact Nat.div_add_mod _ _

theorem cell_at_index (inside : lattice.contains cell = true) :
    lattice.cellAt (lattice.index cell) = cell := by
  obtain ⟨found, same⟩ := index_cell_at (index_lt_area inside)
  exact index_injective found inside same

end Position

section Axis

variable {place : Float32} {side : UInt32} {whole : ℤ}

theorem lt_side_of_below_rounded (finite : place.isFinite = true) (value : number place = whole)
    (below : ¬side.toFloat32 ≤ place) : whole < side.toNat := by
  have sideFinite := of_uint32_finite side
  rw [le_iff sideFinite finite, not_lt.symm, not_not,
    (of_uint32_computes side).number_eq sideFinite] at below
  by_contra beyond
  have ordered : (side.toNat : ℚ) ≤ number place := by
    rw [value]
    exact_mod_cast not_lt.mp beyond
  have reached := rounded_mono ordered
  rw [rounded_of_on_grid (on_grid_number place)] at reached
  linarith

theorem to_uint32_lt_side {coordinate : Float32} (finite : (floor coordinate).isFinite = true)
    (nonneg : ¬floor coordinate < 0) (below : ¬side.toFloat32 ≤ floor coordinate) :
    (floor coordinate).toUInt32 < side := by
  obtain ⟨-, value⟩ := floor_value (finite_of_floor finite)
  rw [lt_iff finite rfl, number_zero, not_lt, value] at nonneg
  have low : 0 ≤ ⌊number coordinate⌋ := by exact_mod_cast nonneg
  have high := lt_side_of_below_rounded finite value below
  rw [UInt32.lt_iff_toNat_lt, to_uint32_value finite, value]
  have truncated : ⌊((⌊number coordinate⌋ : ℤ) : ℚ)⌋₊ = ⌊number coordinate⌋.toNat := by
    rw [← Int.floor_toNat, Int.floor_intCast]
  rw [truncated]
  omega

end Axis

variable {lattice : Lattice} {point : Point}

theorem cell_of_ok {cell : Cell} (found : lattice.cellOf point = .ok cell) :
    point.isFinite = true ∧ lattice.contains cell = true := by
  simp only [cellOf] at found
  split_ifs at found with rejected
  cases found
  simp only [Bool.or_eq_true, Bool.not_eq_true', decide_eq_true_eq, not_or,
    Bool.not_eq_false] at rejected
  obtain ⟨⟨⟨⟨finite, left⟩, bottom⟩, right⟩, top⟩ := rejected
  obtain ⟨xFinite, yFinite⟩ := (finite_iff _).mp finite
  constructor
  · have pointX := finite_operands_of_sub (finite_dividend_of_div (finite_of_floor xFinite))
    have pointY := finite_operands_of_sub (finite_dividend_of_div (finite_of_floor yFinite))
    exact (finite_iff _).mpr ⟨pointX.1, pointY.1⟩
  · rw [contains, Bool.and_eq_true, decide_eq_true_eq, decide_eq_true_eq]
    exact ⟨to_uint32_lt_side xFinite left right, to_uint32_lt_side yFinite bottom top⟩

theorem cell_of_error {fault : Fault} (refused : lattice.cellOf point = .error fault) :
    fault = .pointOutside point := by
  simp only [cellOf] at refused
  split_ifs at refused
  cases refused
  rfl

theorem cell_of_nan (lattice : Lattice) (point : Point)
    (invalid : point.x.isNaN = true ∨ point.y.isNaN = true) :
    lattice.cellOf point = .error (.pointOutside point) := by
  cases found : lattice.cellOf point with
  | ok cell =>
      obtain ⟨xFinite, yFinite⟩ := (finite_iff _).mp (cell_of_ok found).1
      rcases invalid with column | row
      · exact absurd column (not_nan xFinite)
      · exact absurd row (not_nan yFinite)
  | error fault => rw [cell_of_error found]

end EvidenceGrid.Lattice

import EvidenceGrid.Proofs.Lattice.Cell
import EvidenceGrid.Proofs.Lattice.Exact
import EvidenceGrid.Proofs.Lattice.Window

/-!
The middle of a cell and the cell that is found there. Six roundings lie between a cell and the
answer. As long as the map keeps near the world's origin for its size they do not add up to half
a cell, and where nothing is rounded off they are none at all. Far out neighbouring cells have one
middle, and then only one of them is found again. In between the cell is found exactly when the
exact numbers of the six steps say so.
-/

set_option autoImplicit false

namespace EvidenceGrid

open EvidenceGrid.Binary32

namespace Axis

def stride (side : ℚ) (index : ℕ) : ℚ := rounded (rounded (rounded index + 1 / 2) * side)

def middle (corner side : ℚ) (index : ℕ) : ℚ := rounded (corner + stride side index)

/-- No number on the way to a middle and back overflows, and the count of the middle is that of
its own cell. -/
structure Returns (cells : ℕ) (corner side : ℚ) (index : ℕ) : Prop where
  strideSmall : |stride side index| < 2 ^ 128
  middleSmall : |middle corner side index| < 2 ^ 128
  lengthSmall : |rounded (middle corner side index - corner)| < 2 ^ 128
  found : ⌊rounded (rounded (middle corner side index - corner) / side)⌋ = index
  below : (index : ℚ) < rounded cells

section Near

variable {cells index : ℕ} {corner side way reach bound : ℚ}

theorem middle_within (positive : 0 < side) (inside : index < cells) (first : |corner| ≤ bound)
    (last : |corner + cells * side| ≤ bound) :
    side / 2 ≤ (index + 1 / 2) * side ∧ (index + 1 / 2) * side ≤ cells * side - side / 2 ∧
      |corner + (index + 1 / 2) * side| ≤ bound - side / 2 := by
  have start : (0 : ℚ) ≤ index := Nat.cast_nonneg index
  have stop : (index : ℚ) + 1 ≤ cells := by exact_mod_cast inside
  have before : side / 2 ≤ (index + 1 / 2) * side := by nlinarith
  have behind : (index + 1 / 2) * side ≤ cells * side - side / 2 := by nlinarith
  refine ⟨before, behind, ?_⟩
  obtain ⟨low, -⟩ := abs_le.mp first
  obtain ⟨-, high⟩ := abs_le.mp last
  rw [abs_le]
  constructor <;> linarith

theorem half_index_on_grid (few : index < 2 ^ 23) : OnGrid ((index : ℚ) + 1 / 2) := by
  refine ⟨2 * index + 1, -1, ?_, by norm_num, ?_⟩
  · rw [abs_le]
    omega
  · push_cast
    norm_num
    ring

theorem stride_eq (few : index < 2 ^ 23) (side : ℚ) :
    stride side index = rounded ((index + 1 / 2) * side) := by
  rw [stride, rounded_count (by omega), rounded_of_on_grid (half_index_on_grid few)]

theorem reach_error (cornerGrid : OnGrid corner) (cell : 2 ^ (-125 : ℤ) ≤ side) (ahead : 0 < way) :
    |rounded (corner + rounded way) - corner - way| ≤
      way / 2 ^ 24 + side / 2 ^ 25 + (|corner + way| + way / 2 ^ 24 + side / 2 ^ 25) / 2 ^ 24 := by
  have least : (2 : ℚ) ^ (-150 : ℤ) ≤ side / 2 ^ 25 := by
    rw [show (2 : ℚ) ^ (-150 : ℤ) = 2 ^ (-125 : ℤ) / 2 ^ 25 by norm_num]
    exact div_le_div_of_nonneg_right cell (by norm_num)
  have walked := (rounded_error_le way).trans (add_le_add_right least _)
  rw [abs_of_pos ahead] at walked
  have reached : |rounded (corner + rounded way) - (corner + rounded way)| ≤
      |corner + rounded way| / 2 ^ 24 :=
    rounded_relative (multiple_add (multiple_of_on_grid cornerGrid)
      (multiple_of_on_grid (rounded_on_grid _)))
  have size := abs_add_le (corner + way) (rounded way - way)
  have triangle := abs_add_le (rounded (corner + rounded way) - (corner + rounded way))
    (rounded way - way)
  rw [show corner + way + (rounded way - way) = corner + rounded way by ring] at size
  rw [show rounded (corner + rounded way) - (corner + rounded way) + (rounded way - way) =
    rounded (corner + rounded way) - corner - way by ring] at triangle
  linarith

theorem way_back (cornerGrid : OnGrid corner) (cell : 2 ^ (-125 : ℤ) ≤ side) (ahead : 0 < way)
    (room : 3 * way + |corner + way| ≤ (2 ^ 23 - 2) * side) :
    |rounded (rounded (rounded (corner + rounded way) - corner) / side) * side - way| < side / 2 ∧
      |rounded (rounded (corner + rounded way) - corner)| ≤ way + side := by
  have positive : 0 < side := (zpow_pos (by norm_num) _).trans_le cell
  have reached := reach_error cornerGrid cell ahead
  have measured := length_error cornerGrid (rounded_on_grid (corner + rounded way))
  set place := rounded (corner + rounded way)
  have divided := quotient_error positive (rounded (place - corner))
  set length := rounded (place - corner)
  have lengthSize := abs_le_of_error measured
  have placeSize := abs_le_of_error reached
  rw [abs_of_pos ahead] at placeSize
  have first := abs_sub_le (rounded (length / side) * side) length way
  have second := abs_sub_le length (place - corner) way
  have nonneg := abs_nonneg (corner + way)
  constructor <;> linarith

theorem floor_of_near {ratio : ℚ} (positive : 0 < side)
    (near : |ratio * side - (index + 1 / 2) * side| < side / 2) : ⌊ratio⌋ = (index : ℤ) := by
  rw [← sub_mul, abs_mul, abs_of_pos positive, show side / 2 = 1 / 2 * side by ring] at near
  obtain ⟨low, high⟩ := abs_lt.mp (lt_of_mul_lt_mul_right near positive.le)
  rw [Int.floor_eq_iff, Int.cast_natCast]
  constructor <;> linarith

/-- A map near the world's origin for its size: both of its ends lie within so many cells of it,
and its sides count three times. -/
structure Near (reach : ℚ) (cells : ℕ) (corner side : ℚ) : Prop where
  cell : 2 ^ (-125 : ℤ) ≤ side
  first : |corner| ≤ reach * side
  last : |corner + cells * side| ≤ reach * side
  bounded : 3 * cells + reach ≤ 2 ^ 23
  small : reach * side ≤ 2 ^ 126

theorem Near.positive (near : Near reach cells corner side) : 0 < side :=
  (zpow_pos (by norm_num) _).trans_le near.cell

theorem Near.cells_few (near : Near reach cells corner side) : cells < 2 ^ 23 := by
  have reached := (abs_nonneg corner).trans near.first
  have nonneg : 0 ≤ reach := le_of_mul_le_mul_right (by rwa [zero_mul]) near.positive
  have some : (0 : ℚ) ≤ cells := Nat.cast_nonneg cells
  have few : (cells : ℚ) < 2 ^ 23 := by linarith [near.bounded]
  exact_mod_cast few

theorem Near.within (near : Near reach cells corner side) (inside : index < cells) :
    side / 2 ≤ (index + 1 / 2) * side ∧ (index + 1 / 2) * side ≤ cells * side - side / 2 ∧
      |corner + (index + 1 / 2) * side| ≤ reach * side - side / 2 :=
  middle_within near.positive inside near.first near.last

theorem Near.room (near : Near reach cells corner side) (inside : index < cells) :
    3 * ((index + 1 / 2) * side) + |corner + (index + 1 / 2) * side| ≤ (2 ^ 23 - 2) * side := by
  obtain ⟨-, behind, within⟩ := near.within inside
  have bounded := mul_le_mul_of_nonneg_right near.bounded near.positive.le
  linarith

theorem below_rounded (few : cells ≤ 2 ^ 24) (inside : index < cells) :
    (index : ℚ) < rounded cells := by
  rw [rounded_count few]
  exact_mod_cast inside

theorem Near.returns (near : Near reach cells corner side) (cornerGrid : OnGrid corner)
    (inside : index < cells) : Returns cells corner side index := by
  have positive := near.positive
  have few := near.cells_few
  obtain ⟨before, behind, within⟩ := near.within inside
  have ahead : 0 < ((index : ℚ) + 1 / 2) * side := (half_pos positive).trans_le before
  have reached := reach_error cornerGrid near.cell ahead
  obtain ⟨close, back⟩ := way_back cornerGrid near.cell ahead (near.room inside)
  have long : cells * side ≤ 2 ^ 127 := by
    obtain ⟨low, -⟩ := abs_le.mp near.first
    obtain ⟨-, high⟩ := abs_le.mp near.last
    linarith [near.small]
  have top : OnGrid (2 ^ 127) := by exact_mod_cast on_grid_two_pow (by norm_num : (-149 : ℤ) ≤ 127)
  have walk : |stride side index| ≤ 2 ^ 127 := by
    rw [stride_eq (by omega)]
    apply abs_rounded_le top
    rw [abs_of_pos ahead]
    linarith
  rw [← stride_eq (by omega), ← middle] at reached close back
  have size := abs_add_le (middle corner side index - corner - (index + 1 / 2) * side)
    (corner + (index + 1 / 2) * side)
  rw [show middle corner side index - corner - (index + 1 / 2) * side +
    (corner + (index + 1 / 2) * side) = middle corner side index by ring] at size
  have small := near.small
  constructor
  · linarith
  · linarith
  · linarith
  · exact floor_of_near positive close
  · exact below_rounded (by omega) inside

end Near

/-- A map on which nothing is rounded off between its two ends: both lie where 24 digits count
the units of the corner, and the cell counts twice as much, so that its half counts them too. -/
structure Unrounded (power : ℤ) (cells : ℕ) (corner side : ℚ) : Prop where
  floor : -149 ≤ power
  ceiling : power ≤ 103
  sideUnits : CountsUnits (power + 1) side
  cornerUnits : CountsUnits power corner
  few : cells * side ≤ 2 ^ 24 * 2 ^ power
  first : |corner| ≤ 2 ^ 24 * 2 ^ power
  last : |corner + cells * side| ≤ 2 ^ 24 * 2 ^ power

section Unrounded

variable {power : ℤ} {cells index : ℕ} {corner side : ℚ}

theorem Unrounded.cells_few (unrounded : Unrounded power cells corner side) (positive : 0 < side) :
    cells ≤ 2 ^ 23 := by
  have few : (cells : ℚ) ≤ 2 ^ 23 := by
    apply cells_le_of_units unrounded.sideUnits positive
    linarith [unrounded.few]
  exact_mod_cast few

theorem Unrounded.returns (unrounded : Unrounded power cells corner side) (positive : 0 < side)
    (inside : index < cells) : Returns cells corner side index := by
  have few := unrounded.cells_few positive
  have ratio := half_index_on_grid (by omega : index < 2 ^ 23)
  obtain ⟨before, behind, within⟩ :=
    middle_within positive inside unrounded.first unrounded.last
  obtain ⟨halves, even, -⟩ := halves_of_units unrounded.sideUnits positive
  have wayUnits : CountsUnits power ((index + 1 / 2) * side) := by
    refine ⟨(2 * index + 1) * halves, ?_⟩
    rw [even]
    push_cast
    ring
  have waySmall : |(index + 1 / 2) * side| ≤ 2 ^ 24 * 2 ^ power := by
    rw [abs_of_nonneg (by linarith)]
    linarith [unrounded.few]
  have middleUnits : CountsUnits power (corner + (index + 1 / 2) * side) := by
    have reached := units_of_move unrounded.cornerUnits wayUnits 1
    rwa [Int.cast_one, one_mul] at reached
  have way := on_grid_of_units unrounded.floor wayUnits waySmall
  have middleGrid := on_grid_of_units unrounded.floor middleUnits (by linarith)
  have top := digits_below_top unrounded.ceiling
  -- Each of the six steps gives the exact number.
  have walked : stride side index = (index + 1 / 2) * side := by
    rw [stride_eq (by omega), rounded_of_on_grid way]
  have reached : middle corner side index = corner + (index + 1 / 2) * side := by
    rw [middle, walked, rounded_of_on_grid middleGrid]
  have measured : rounded (middle corner side index - corner) = (index + 1 / 2) * side := by
    rw [reached, add_sub_cancel_left, rounded_of_on_grid way]
  constructor
  · rw [walked]
    linarith
  · rw [reached]
    linarith
  · rw [measured]
    linarith
  · rw [measured, mul_div_cancel_right₀ _ positive.ne', rounded_of_on_grid ratio]
    apply floor_of_near positive
    rw [sub_self, abs_zero]
    exact half_pos positive
  · exact below_rounded (by omega) inside

end Unrounded

/-- A cell beyond the first one in a map so far out that its middle is lost in the corner. -/
structure Lost (corner side : ℚ) (index : ℕ) : Prop where
  beyond : index ≠ 0
  few : index < 2 ^ 23
  far : 2 ^ 26 * ((index + 1) * side) ≤ |corner|

section Lost

variable {cells index : ℕ} {corner side : ℚ}

theorem stride_le (sideGrid : OnGrid side) (positive : 0 < side) (few : index < 2 ^ 23) :
    0 ≤ stride side index ∧ stride side index ≤ (1 + 1 / 2 ^ 24) * ((index + 1) * side) := by
  have start : (0 : ℚ) ≤ index := Nat.cast_nonneg index
  have ahead : 0 ≤ (index + 1 / 2) * side := by positivity
  have nonneg := rounded_mono ahead
  rw [rounded_zero, ← stride_eq few] at nonneg
  have error := rounded_error_le ((index + 1 / 2) * side)
  have least := least_le_side sideGrid positive
  rw [← stride_eq few, abs_of_nonneg ahead] at error
  exact ⟨nonneg, by linarith [(abs_le.mp error).2]⟩

theorem middle_absorbed (cornerGrid : OnGrid corner) (sideGrid : OnGrid side)
    (positive : 0 < side) (few : index < 2 ^ 23) (far : 2 ^ 26 * ((index + 1) * side) ≤ |corner|) :
    middle corner side index = corner := by
  obtain ⟨nonneg, short⟩ := stride_le sideGrid positive few
  have nearest := rounded_nearest (corner + stride side index) cornerGrid
  rw [sub_add_cancel_left, abs_neg, abs_of_nonneg nonneg] at nearest
  have moved : |middle corner side index - corner| ≤ 2 * stride side index := by
    have triangle := abs_sub_le (middle corner side index) (corner + stride side index) corner
    rw [add_sub_cancel_left, abs_of_nonneg nonneg, middle] at triangle
    rw [middle]
    linarith
  by_contra apart
  have gap := abs_le_of_apart cornerGrid (rounded_on_grid (corner + stride side index))
    (Ne.symm apart)
  rw [abs_sub_comm, ← middle] at gap
  have some : 0 < (index + 1) * side := by positivity
  linarith

theorem Lost.not_returns (lost : Lost corner side index) (cornerGrid : OnGrid corner)
    (sideGrid : OnGrid side) (positive : 0 < side) : ¬Returns cells corner side index := by
  intro returns
  have found := returns.found
  have some := lost.beyond
  rw [middle_absorbed cornerGrid sideGrid positive lost.few lost.far, sub_self, rounded_zero,
    zero_div, rounded_zero, Int.floor_zero] at found
  omega

end Lost

def Steady (cells : ℕ) (corner side : ℚ) : Prop :=
  (∃ reach, Near reach cells corner side) ∨ ∃ power, Unrounded power cells corner side

theorem Steady.returns {cells index : ℕ} {corner side : ℚ} (steady : Steady cells corner side)
    (positive : 0 < side) (cornerGrid : OnGrid corner) (inside : index < cells) :
    Returns cells corner side index := by
  rcases steady with ⟨reach, near⟩ | ⟨power, unrounded⟩
  · exact near.returns cornerGrid inside
  · exact unrounded.returns positive inside

end Axis

namespace Lattice

section Axis

variable {cells index : UInt32} {corner side center : Float32}

def axisCenter (corner side : Float32) (index : UInt32) : Float32 :=
  corner + (index.toFloat32 + 0.5) * side

def AxisFinds (cells : UInt32) (side corner center : Float32) (index : UInt32) : Prop :=
  AxisHolds cells side corner center ∧ (floor ((center - corner) / side)).toUInt32 = index

theorem axis_finds_iff (finite : ((center - corner) / side).isFinite = true) :
    AxisFinds cells side corner center index ↔
      ⌊number ((center - corner) / side)⌋ = index.toNat ∧
        (index.toNat : ℚ) < rounded cells.toNat := by
  obtain ⟨floorFinite, floorValue⟩ := floor_value finite
  have cellsFinite := of_uint32_finite cells
  have cellsValue := (of_uint32_computes cells).number_eq cellsFinite
  have truncated : (floor ((center - corner) / side)).toUInt32.toNat =
      min ⌊number ((center - corner) / side)⌋.toNat (2 ^ 32 - 1) := by
    rw [to_uint32_value floorFinite, floorValue, ← Int.floor_toNat, Int.floor_intCast]
  rw [AxisFinds, AxisHolds, ← UInt32.toNat_inj, truncated]
  constructor
  · rintro ⟨⟨-, nonneg, below⟩, same⟩
    have high := lt_side_of_below_rounded floorFinite floorValue below
    have cellsSmall := cells.toNat_lt
    rw [lt_iff floorFinite rfl, number_zero, floorValue, not_lt, Int.cast_nonneg_iff] at nonneg
    have found : ⌊number ((center - corner) / side)⌋ = index.toNat := by omega
    rw [le_iff cellsFinite floorFinite, cellsValue, floorValue, found, not_le] at below
    exact ⟨found, by exact_mod_cast below⟩
  · rintro ⟨found, below⟩
    have indexSmall := index.toNat_lt
    rw [lt_iff floorFinite rfl, le_iff cellsFinite floorFinite, number_zero, floorValue, cellsValue,
      found, not_lt, not_le]
    refine ⟨⟨floorFinite, ?_, ?_⟩, by omega⟩
    · exact_mod_cast Nat.zero_le _
    · exact_mod_cast below

theorem half_index_value (index : UInt32) :
    (index.toFloat32 + 0.5).isFinite = true ∧
      number (index.toFloat32 + 0.5) = rounded (rounded index.toNat + 1 / 2) := by
  have indexFinite := of_uint32_finite index
  have computes := add_computes indexFinite (show (0.5 : Float32).isFinite = true from rfl)
  rw [(of_uint32_computes index).number_eq indexFinite, number_half] at computes
  have top : OnGrid (2 ^ 33) := by exact_mod_cast on_grid_two_pow (by norm_num : (-149 : ℤ) ≤ 33)
  have counted := abs_le.mp (rounded_count_error index.toNat)
  have below : (index.toNat : ℚ) < 2 ^ 32 := by exact_mod_cast index.toNat_lt
  have nonneg : (0 : ℚ) ≤ index.toNat := Nat.cast_nonneg _
  have small : |rounded (rounded index.toNat + 1 / 2)| ≤ 2 ^ 33 := by
    apply abs_rounded_le top
    rw [abs_le]
    constructor <;> linarith
  have finite := computes.finite_iff.mpr (small.trans_lt (by norm_num))
  exact ⟨finite, computes.number_eq finite⟩

theorem axis_finds_center_iff (sideFinite : side.isFinite = true) (positive : 0 < number side)
    (cornerFinite : corner.isFinite = true) :
    AxisFinds cells side corner (axisCenter corner side index) index ↔
      Axis.Returns cells.toNat (number corner) (number side) index.toNat := by
  obtain ⟨halfFinite, halfValue⟩ := half_index_value index
  have stride := mul_computes halfFinite sideFinite
  rw [halfValue] at stride
  have middle (strideFinite : ((index.toFloat32 + 0.5) * side).isFinite = true) :
      Computes (axisCenter corner side index)
        (number corner + Axis.stride (number side) index.toNat) := by
    have sum := add_computes cornerFinite strideFinite
    rwa [stride.number_eq strideFinite] at sum
  have length (strideFinite : ((index.toFloat32 + 0.5) * side).isFinite = true)
      (middleFinite : (axisCenter corner side index).isFinite = true) :
      Computes (axisCenter corner side index - corner)
        (Axis.middle (number corner) (number side) index.toNat - number corner) := by
    have difference := sub_computes middleFinite cornerFinite
    rwa [(middle strideFinite).number_eq middleFinite] at difference
  constructor
  · intro finds
    have finite := finite_of_floor finds.1.1
    obtain ⟨found, below⟩ := (axis_finds_iff finite).mp finds
    have lengthFinite := finite_dividend_of_div finite
    have middleFinite := (finite_operands_of_sub lengthFinite).1
    have strideFinite := (finite_operands_of_add middleFinite).2
    have measured := length strideFinite middleFinite
    rw [(div_computes lengthFinite sideFinite positive.ne').number_eq finite,
      measured.number_eq lengthFinite] at found
    exact ⟨stride.finite_iff.mp strideFinite, (middle strideFinite).finite_iff.mp middleFinite,
      measured.finite_iff.mp lengthFinite, found, below⟩
  · intro returns
    have strideFinite := stride.finite_iff.mpr returns.strideSmall
    have middleFinite := (middle strideFinite).finite_iff.mpr returns.middleSmall
    have measured := length strideFinite middleFinite
    have lengthFinite := measured.finite_iff.mpr returns.lengthSmall
    have ratio := div_computes lengthFinite sideFinite positive.ne'
    rw [measured.number_eq lengthFinite] at ratio
    obtain ⟨low, high⟩ := Int.floor_eq_iff.mp returns.found
    have below : (index.toNat : ℚ) < 2 ^ 32 := by exact_mod_cast index.toNat_lt
    have finite := ratio.finite_iff.mpr (by
      rw [abs_lt]
      push_cast at low high
      constructor <;> linarith [(Nat.cast_nonneg index.toNat : (0 : ℚ) ≤ index.toNat)])
    apply (axis_finds_iff finite).mpr
    rw [ratio.number_eq finite]
    exact ⟨returns.found, returns.below⟩

end Axis

variable {lattice : Lattice} {cell : Cell}

theorem cell_of_eq_ok_iff (lattice : Lattice) (point : Point) (cell : Cell) :
    lattice.cellOf point = .ok cell ↔
      AxisFinds lattice.width lattice.resolution lattice.origin.x point.x cell.x ∧
        AxisFinds lattice.height lattice.resolution lattice.origin.y point.y cell.y := by
  have counted {other : Cell} (found : lattice.cellOf point = .ok other) :
      other = ((lattice.inCells point).map floor).toCell := by
    simp only [cellOf] at found
    split_ifs at found
    cases found
    rfl
  constructor
  · intro found
    obtain ⟨column, row⟩ := (cell_of_ok_iff lattice point).mp ⟨cell, found⟩
    rw [counted found]
    exact ⟨⟨column, rfl⟩, row, rfl⟩
  · rintro ⟨⟨column, sameColumn⟩, row, sameRow⟩
    obtain ⟨other, found⟩ := (cell_of_ok_iff lattice point).mpr ⟨column, row⟩
    have same : other = cell := by
      rw [counted found]
      exact congrArg₂ Cell.mk sameColumn sameRow
    rw [found, same]

theorem center_of_ok (inside : lattice.contains cell = true) :
    lattice.centerOf cell =
      .ok ⟨axisCenter lattice.origin.x lattice.resolution cell.x,
        axisCenter lattice.origin.y lattice.resolution cell.y⟩ :=
  if_pos inside

theorem cell_of_center_iff (usable : lattice.Usable) (finite : lattice.origin.isFinite = true)
    (cell : Cell) :
    lattice.cellOf ⟨axisCenter lattice.origin.x lattice.resolution cell.x,
        axisCenter lattice.origin.y lattice.resolution cell.y⟩ = .ok cell ↔
      Axis.Returns lattice.width.toNat (number lattice.origin.x) (number lattice.resolution)
          cell.x.toNat ∧
        Axis.Returns lattice.height.toNat (number lattice.origin.y) (number lattice.resolution)
          cell.y.toNat := by
  obtain ⟨xFinite, yFinite⟩ := (finite_iff _).mp finite
  rw [cell_of_eq_ok_iff]
  exact and_congr (axis_finds_center_iff usable.finite usable.positive xFinite)
    (axis_finds_center_iff usable.finite usable.positive yFinite)

/-- Each cell of a map has a middle. The cell that is found there is the same one exactly when the
exact numbers on the way to the middle and back say so: always in a map that is near the world's
origin for its size or of which nothing is rounded off, and never beyond the first column or row
of a map so far out that the way to the middle is lost in its corner. -/
theorem center_found_iff {lattice : Lattice} {cell : Cell} (usable : lattice.validate = .ok ())
    (finite : lattice.origin.isFinite = true) (inside : lattice.contains cell = true) :
    ∃ point, lattice.centerOf cell = .ok point ∧
      (lattice.cellOf point = .ok cell ↔
        Axis.Returns lattice.width.toNat (number lattice.origin.x) (number lattice.resolution)
            cell.x.toNat ∧
          Axis.Returns lattice.height.toNat (number lattice.origin.y) (number lattice.resolution)
            cell.y.toNat) ∧
      (Axis.Steady lattice.width.toNat (number lattice.origin.x) (number lattice.resolution) →
        Axis.Steady lattice.height.toNat (number lattice.origin.y) (number lattice.resolution) →
        lattice.cellOf point = .ok cell) ∧
      (Axis.Lost (number lattice.origin.x) (number lattice.resolution) cell.x.toNat ∨
          Axis.Lost (number lattice.origin.y) (number lattice.resolution) cell.y.toNat →
        lattice.cellOf point ≠ .ok cell) := by
  have sound := (validate_ok_iff _).mp usable
  have found := cell_of_center_iff sound finite cell
  obtain ⟨column, row⟩ :
      cell.x.toNat < lattice.width.toNat ∧ cell.y.toNat < lattice.height.toNat := by
    simpa only [contains, Bool.and_eq_true, decide_eq_true_eq, UInt32.lt_iff_toNat_lt] using inside
  refine ⟨_, center_of_ok inside, found, ?_, ?_⟩
  · intro steadyX steadyY
    exact found.mpr ⟨steadyX.returns sound.positive (on_grid_number _) column,
      steadyY.returns sound.positive (on_grid_number _) row⟩
  · intro lost same
    obtain ⟨returnsX, returnsY⟩ := found.mp same
    rcases lost with lostX | lostY
    · exact lostX.not_returns (on_grid_number _) (on_grid_number _) sound.positive returnsX
    · exact lostY.not_returns (on_grid_number _) (on_grid_number _) sound.positive returnsY

theorem center_found_iff_steady :
    let lattice : Lattice := ⟨4, 3, 0.5, ⟨4194302, -1⟩⟩
    lattice.validate = .ok () ∧ lattice.origin.isFinite = true ∧
      lattice.contains ⟨3, 2⟩ = true ∧
      ∃ point, lattice.centerOf ⟨3, 2⟩ = .ok point ∧ lattice.cellOf point = .ok ⟨3, 2⟩ := by
  intro lattice
  have usable : lattice.validate = .ok () := by decide +kernel
  have finite : lattice.origin.isFinite = true := by decide +kernel
  have inside : lattice.contains ⟨3, 2⟩ = true := by decide +kernel
  have numbers : number lattice.resolution = 1 / 2 ∧ number lattice.origin.x = 4194302 ∧
      number lattice.origin.y = -1 := by decide +kernel
  have columns : Axis.Unrounded (-2) 4 4194302 (1 / 2) :=
    ⟨by norm_num, by norm_num, ⟨1, by norm_num⟩, ⟨16777208, by norm_num⟩, by norm_num,
      by norm_num, by norm_num⟩
  have rows : Axis.Near 2 3 (-1) (1 / 2) :=
    ⟨by norm_num, by norm_num, by norm_num [abs_le], by norm_num, by norm_num⟩
  obtain ⟨point, reached, -, steady, -⟩ := center_found_iff usable finite inside
  rw [numbers.1, numbers.2.1, numbers.2.2] at steady
  exact ⟨usable, finite, inside, point, reached,
    steady (.inr ⟨-2, columns⟩) (.inl ⟨2, rows⟩)⟩

/-- Two cells so far out that both have their middle on the corner, and a cell of which the half
is rounded to the next one. -/
theorem center_beside_cell :
    let far : Lattice := ⟨2, 1, 0.25, ⟨16777216, 0⟩⟩
    let long : Lattice := ⟨8388611, 1, 1, .zero⟩
    (far.validate = .ok () ∧ far.origin.isFinite = true ∧ far.contains ⟨1, 0⟩ = true ∧
      far.centerOf ⟨1, 0⟩ = .ok ⟨16777216, 0.125⟩ ∧
      far.cellOf ⟨16777216, 0.125⟩ = .ok ⟨0, 0⟩) ∧
      long.validate = .ok () ∧ long.contains ⟨8388609, 0⟩ = true ∧
        long.centerOf ⟨8388609, 0⟩ = .ok ⟨8388610, 0.5⟩ ∧
        long.cellOf ⟨8388610, 0.5⟩ = .ok ⟨8388610, 0⟩ := by
  decide +kernel

end Lattice

end EvidenceGrid

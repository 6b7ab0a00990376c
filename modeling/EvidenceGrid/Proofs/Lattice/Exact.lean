import EvidenceGrid.Proofs.Binary32.Zero
import EvidenceGrid.Proofs.Lattice.Snap

/-!
Lattices on which nothing is rounded off: the corner and the cell are multiples of one
power of two, and all places lie where 24 digits count them. There a target leads to the
same place from every corner of the lattice, unless it lies half-way between two places,
and a place of the lattice leads to itself.
-/

set_option autoImplicit false

namespace EvidenceGrid

open EvidenceGrid.Binary32

namespace Axis

def CountsUnits (power : ℤ) (number : ℚ) : Prop := ∃ whole : ℤ, number = whole * 2 ^ power

section Units

variable {power : ℤ} {number corner side : ℚ}

theorem on_grid_of_units (floor : -149 ≤ power) (units : CountsUnits power number)
    (few : |number| ≤ 2 ^ 24 * 2 ^ power) : OnGrid number := by
  obtain ⟨whole, rfl⟩ := units
  refine ⟨whole, power, ?_, floor, rfl⟩
  have positive : (0 : ℚ) < 2 ^ power := by positivity
  rw [abs_mul, abs_of_pos positive, mul_le_mul_iff_left₀ positive] at few
  exact_mod_cast few

theorem digits_on_grid (floor : -149 ≤ power) {digits : ℕ} (few : digits ≤ 24) :
    OnGrid (2 ^ digits * 2 ^ power) := by
  have largest : (2 : ℤ) ^ digits ≤ 2 ^ 24 := pow_le_pow_right₀ (by norm_num) few
  refine ⟨2 ^ digits, power, ?_, floor, by push_cast; rfl⟩
  rwa [abs_of_pos (by positivity)]

theorem abs_walk_le (corner walk : ℚ) : |walk| ≤ |corner + walk| + |corner| := by
  simpa using abs_sub (corner + walk) corner

theorem units_sub {left right : ℚ} (leftUnits : CountsUnits power left)
    (rightUnits : CountsUnits power right) : CountsUnits power (left - right) := by
  obtain ⟨first, rfl⟩ := leftUnits
  obtain ⟨second, rfl⟩ := rightUnits
  exact ⟨first - second, by push_cast; ring⟩

theorem units_of_walk (units : CountsUnits power side) (cells : ℤ) :
    CountsUnits power (cells * side) := by
  obtain ⟨whole, rfl⟩ := units
  exact ⟨cells * whole, by push_cast; ring⟩

theorem units_of_move (cornerUnits : CountsUnits power corner) (sideUnits : CountsUnits power side)
    (cells : ℤ) : CountsUnits power (corner + cells * side) := by
  obtain ⟨start, rfl⟩ := cornerUnits
  obtain ⟨length, walked⟩ := units_of_walk sideUnits cells
  exact ⟨start + length, by rw [walked]; push_cast; ring⟩

theorem digits_below_top (ceiling : power ≤ 103) : (2 : ℚ) ^ 24 * 2 ^ power ≤ 2 ^ 127 := by
  have small : (2 : ℚ) ^ power ≤ 2 ^ (103 : ℤ) := zpow_le_zpow_right₀ (by norm_num) ceiling
  norm_num at small ⊢
  linarith

theorem halves_of_units (units : CountsUnits (power + 1) side) (positive : 0 < side) :
    ∃ halves : ℤ, side = 2 * halves * 2 ^ power ∧ 1 ≤ halves := by
  have unit : (0 : ℚ) < 2 ^ power := by positivity
  obtain ⟨halves, same⟩ := units
  have even : side = 2 * halves * 2 ^ power := by
    rw [same, zpow_add_one₀ (by norm_num : (2 : ℚ) ≠ 0)]
    ring
  have some : (0 : ℚ) < 2 * halves := by
    apply pos_of_mul_pos_left _ unit.le
    rwa [← even]
  have ahead : (0 : ℚ) < halves := by linarith
  exact ⟨halves, even, by exact_mod_cast ahead⟩

theorem cells_le_of_units (units : CountsUnits (power + 1) side) (positive : 0 < side) {cells : ℕ}
    {bound : ℚ} (few : cells * side ≤ 2 * bound * 2 ^ power) : (cells : ℚ) ≤ bound := by
  have unit : (0 : ℚ) < 2 ^ power := by positivity
  obtain ⟨halves, even, one⟩ := halves_of_units units positive
  have oneCast : (1 : ℚ) ≤ halves := by exact_mod_cast one
  have count : (0 : ℚ) ≤ cells := Nat.cast_nonneg cells
  have least : 2 * (2 : ℚ) ^ power ≤ side := by
    rw [even]
    nlinarith
  have long : 2 * (cells : ℚ) * 2 ^ power ≤ 2 * bound * 2 ^ power := by nlinarith
  linarith [le_of_mul_le_mul_right long unit]

theorem cells_on_grid (positive : 0 < side) (units : CountsUnits power side) {cells : ℤ}
    (few : |cells * side| ≤ 2 ^ 24 * 2 ^ power) : OnGrid (cells : ℚ) := by
  have unit : (0 : ℚ) < 2 ^ power := by positivity
  obtain ⟨length, rfl⟩ := units
  have one : (1 : ℚ) ≤ length := by exact_mod_cast pos_of_mul_pos_left positive unit.le
  rw [abs_mul, abs_of_pos positive, ← mul_assoc, mul_le_mul_iff_left₀ unit] at few
  apply on_grid_int
  have size : |(cells : ℚ)| ≤ 2 ^ 24 := by nlinarith [abs_nonneg (cells : ℚ)]
  exact_mod_cast size

end Units

/-- An axis on which nothing within reach of the world's origin is rounded off. -/
structure Fine (power : ℤ) (reach side : ℚ) : Prop where
  floor : -149 ≤ power
  positive : 0 < side
  units : CountsUnits power side
  enough : 1 ≤ reach
  few : (reach + 1) * side ≤ 2 ^ 23 * 2 ^ power

structure Fits (power : ℤ) (reach side corner : ℚ) : Prop where
  units : CountsUnits power corner
  near : |corner| ≤ (reach + 1) * side

section Fine

variable {power : ℤ} {reach side corner other target : ℚ} {cells : ℤ}

theorem Fits.on_grid (fine : Fine power reach side) (fits : Fits power reach side corner) :
    OnGrid corner := by
  have unit : (0 : ℚ) < 2 ^ power := by positivity
  have few := fits.near.trans fine.few
  exact on_grid_of_units fine.floor fits.units (by linarith)

theorem Fits.walk_few (fine : Fine power reach side) (fits : Fits power reach side corner)
    (near : |corner + cells * side| ≤ (reach + 1) * side) :
    |cells * side| ≤ 2 ^ 24 * 2 ^ power := by
  linarith [fine.few, fits.near, abs_walk_le corner (cells * side)]

theorem clear_of_shifted {margin : ℚ} (clear : ClearOfTies margin (target - corner) side)
    (shifted : other = corner + cells * side) : ClearOfTies margin (target - other) side := by
  intro tie
  have same : target - other - (tie + 1 / 2) * side =
      target - corner - ((tie + cells : ℤ) + 1 / 2) * side := by
    rw [shifted]
    push_cast
    ring
  rw [same]
  exact clear (tie + cells)

theorem place_exact (fine : Fine power reach side) (fits : Fits power reach side corner)
    (targetGrid : OnGrid target) (targetNear : |target| ≤ reach * side)
    (clear : ClearOfTies (reach * side / 2 ^ 20) (target - corner) side) :
    place corner side target = corner + count corner side target * side ∧
      |target - place corner side target| < side / 2 := by
  have positive := fine.positive
  have enough := fine.enough
  have distance := count_distance (fits.on_grid fine) targetGrid positive
    (by linarith : 1 ≤ reach + 1) fits.near (by nlinarith)
  have near : |target - (corner + count corner side target * side)| < side / 2 := by
    have settled := count_nearest (by nlinarith) distance clear
    rw [← sub_sub]
    nlinarith
  have placeNear : |corner + count corner side target * side| ≤ (reach + 1) * side := by
    have triangle := abs_sub_abs_le_abs_sub (corner + count corner side target * side) target
    rw [abs_sub_comm] at near
    linarith
  have unit : (0 : ℚ) < 2 ^ power := by positivity
  have walk := on_grid_of_units fine.floor (units_of_walk fine.units _)
    (fits.walk_few fine placeNear)
  have sum := on_grid_of_units fine.floor (units_of_move fits.units fine.units _)
    (by linarith [placeNear.trans fine.few])
  have exact : place corner side target = corner + count corner side target * side := by
    rw [place, rounded_of_on_grid walk, rounded_of_on_grid sum]
  rw [exact]
  exact ⟨rfl, near⟩

theorem place_fits (fine : Fine power reach side) (fits : Fits power reach side corner)
    (targetGrid : OnGrid target) (targetNear : |target| ≤ reach * side)
    (clear : ClearOfTies (reach * side / 2 ^ 20) (target - corner) side) :
    Fits power reach side (place corner side target) := by
  obtain ⟨exact, near⟩ := place_exact fine fits targetGrid targetNear clear
  constructor
  · rw [exact]
    exact units_of_move fits.units fine.units _
  · have triangle := abs_sub_abs_le_abs_sub (place corner side target) target
    rw [abs_sub_comm] at near
    linarith [fine.positive]

/-- A target leads to one place from all corners of a lattice. -/
theorem place_same (fine : Fine power reach side) (fits : Fits power reach side corner)
    (otherFits : Fits power reach side other) (shifted : other = corner + cells * side)
    (targetGrid : OnGrid target) (targetNear : |target| ≤ reach * side)
    (clear : ClearOfTies (reach * side / 2 ^ 20) (target - corner) side) :
    place other side target = place corner side target := by
  obtain ⟨exact, near⟩ := place_exact fine fits targetGrid targetNear clear
  obtain ⟨otherExact, otherNear⟩ := place_exact fine otherFits targetGrid targetNear
    (clear_of_shifted clear shifted)
  have positive := fine.positive
  rw [exact] at near ⊢
  rw [otherExact, shifted] at otherNear ⊢
  set first := count corner side target
  set second := count (corner + cells * side) side target
  have whole : first = cells + second := by
    apply cells_eq_of_close positive
    have triangle := abs_sub (target - (corner + cells * side + second * side))
      (target - (corner + first * side))
    have same : target - (corner + cells * side + second * side) -
        (target - (corner + first * side)) = first * side - ((cells + second : ℤ) : ℚ) * side := by
      push_cast
      ring
    rw [same] at triangle
    linarith
  rw [whole]
  push_cast
  ring

theorem place_of_multiple (fine : Fine power reach side) (fits : Fits power reach side corner)
    (otherFits : Fits power reach side other) (shifted : other = corner + cells * side) :
    count corner side other = cells ∧ place corner side other = other := by
  have near := otherFits.near
  rw [shifted] at near
  have few := fits.walk_few fine near
  have walk := on_grid_of_units fine.floor (units_of_walk fine.units cells) few
  have counted : count corner side other = cells := by
    rw [count, shifted, add_sub_cancel_left, rounded_of_on_grid walk,
      mul_div_cancel_right₀ _ fine.positive.ne',
      rounded_of_on_grid (cells_on_grid fine.positive fine.units few), round_away_int]
  refine ⟨counted, ?_⟩
  rw [place, counted, rounded_of_on_grid walk, ← shifted,
    rounded_of_on_grid (otherFits.on_grid fine)]

end Fine

end Axis

namespace Lattice

section Axis

variable {power : ℤ} {reach : ℚ} {base corner side target : Float32}

structure AxisBeside (power : ℤ) (reach : ℚ) (side base corner : Float32) : Prop where
  finite : corner.isFinite = true
  signed : corner ≠ -0
  fits : Axis.Fits power reach (number side) (number corner)
  whole : ∃ cells : ℤ, number corner = number base + cells * number side

theorem AxisBeside.apart (beside : AxisBeside power reach side base corner)
    (targetBeside : AxisBeside power reach side base target) :
    ∃ cells : ℤ, number target = number corner + cells * number side := by
  obtain ⟨first, cornerEq⟩ := beside.whole
  obtain ⟨second, targetEq⟩ := targetBeside.whole
  refine ⟨second - first, ?_⟩
  rw [targetEq, cornerEq]
  push_cast
  ring

theorem axis_snap_fine (ceiling : power ≤ 103) (fine : Axis.Fine power reach (number side))
    (sideFinite : side.isFinite = true) (cornerFinite : corner.isFinite = true)
    (targetFinite : target.isFinite = true)
    (fits : Axis.Fits power reach (number side) (number corner))
    (targetNear : |number target| ≤ (reach + 1) * number side) :
    (axisSnap corner side target).isFinite = true := by
  have unit : (0 : ℚ) < 2 ^ power := by positivity
  have top := Axis.digits_below_top ceiling
  have sideUnit : (2 : ℚ) ^ power ≤ number side := by
    obtain ⟨length, same⟩ := fine.units
    have some := fine.positive
    rw [same] at some ⊢
    have one : (1 : ℚ) ≤ length := by exact_mod_cast pos_of_mul_pos_left some unit.le
    exact le_mul_of_one_le_left unit.le one
  have few : reach + 1 ≤ 2 ^ 23 := by nlinarith [fine.few, fine.enough]
  exact axis_snap_finite sideFinite fine.positive cornerFinite targetFinite
    (by linarith [fine.enough]) few (by linarith [fine.few]) fits.near targetNear

theorem axis_snap_signed (signed : corner ≠ -0) : axisSnap corner side target ≠ -0 :=
  fun negative => signed (add_neg_zero negative)

theorem axis_snap_beside (ceiling : power ≤ 103) (fine : Axis.Fine power reach (number side))
    (sideFinite : side.isFinite = true) (baseBeside : AxisBeside power reach side base base)
    (beside : AxisBeside power reach side base corner) (targetFinite : target.isFinite = true)
    (targetNear : |number target| ≤ reach * number side)
    (clear : Axis.ClearOfTies (reach * number side / 2 ^ 20) (number target - number base)
      (number side)) :
    AxisBeside power reach side base (axisSnap corner side target) ∧
      axisSnap corner side target = axisSnap base side target := by
  have reached (start : Float32) (startBeside : AxisBeside power reach side base start) :
      AxisBeside power reach side base (axisSnap start side target) ∧
        number (axisSnap start side target) =
          Axis.place (number base) (number side) (number target) := by
    obtain ⟨cells, shifted⟩ := startBeside.whole
    have startClear := Axis.clear_of_shifted clear shifted
    have placeFits := Axis.place_fits fine startBeside.fits (on_grid_number target) targetNear
      startClear
    have finite := axis_snap_fine ceiling fine sideFinite startBeside.finite targetFinite
      startBeside.fits (by linarith [fine.positive])
    have value := axis_snap_value sideFinite fine.positive finite
    have same := Axis.place_same fine baseBeside.fits startBeside.fits shifted (on_grid_number _)
      targetNear clear
    rw [← value] at placeFits
    refine ⟨⟨finite, axis_snap_signed startBeside.signed, placeFits, ?_⟩, value.trans same⟩
    obtain ⟨baseExact, -⟩ := Axis.place_exact fine baseBeside.fits (on_grid_number target)
      targetNear clear
    exact ⟨_, value.trans (same.trans baseExact)⟩
  obtain ⟨here, number⟩ := reached corner beside
  obtain ⟨there, baseNumber⟩ := reached base baseBeside
  exact ⟨here, eq_of_number_eq here.finite there.finite here.signed there.signed
    (number.trans baseNumber.symm)⟩

theorem axis_snap_back (ceiling : power ≤ 103) (fine : Axis.Fine power reach (number side))
    (sideFinite : side.isFinite = true) (beside : AxisBeside power reach side base corner)
    (targetBeside : AxisBeside power reach side base target) :
    AxisBeside power reach side base (axisSnap corner side target) := by
  obtain ⟨cells, shifted⟩ := beside.apart targetBeside
  obtain ⟨counted, same⟩ := Axis.place_of_multiple fine beside.fits targetBeside.fits shifted
  have finite := axis_snap_fine ceiling fine sideFinite beside.finite targetBeside.finite
    beside.fits targetBeside.fits.near
  have value := (axis_snap_value sideFinite fine.positive finite).trans same
  exact ⟨finite, axis_snap_signed beside.signed, value ▸ targetBeside.fits,
    value ▸ targetBeside.whole⟩

end Axis

end Lattice

end EvidenceGrid

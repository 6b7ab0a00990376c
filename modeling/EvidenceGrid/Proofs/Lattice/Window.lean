import EvidenceGrid.Proofs.Lattice.Snap

/-!
The window around a place, on one axis. It is centered on the place and then brought to the
lattice, which moves it by half a cell at most. A window of two cells or more has as much to
spare on either side, so the place stays in it until the roundings add up to that; a window of
one cell has nothing to spare, and what it loses when the place lies on a line between cells is
decided by the way a half is rounded. All this is for numbers that do not overflow, and what
is needed for that comes last.
-/

set_option autoImplicit false

namespace EvidenceGrid

open EvidenceGrid.Binary32

namespace Axis

def half (cells : ℕ) (side : ℚ) : ℚ := rounded (rounded (rounded cells * side) / 2)

def wanted (cells : ℕ) (side place : ℚ) : ℚ := rounded (place - half cells side)

section Half

variable {cells : ℕ} {side : ℚ}

theorem half_error (sideGrid : OnGrid side) (positive : 0 < side) (cells : ℕ) :
    |half cells side - cells * side / 2| ≤ 2 * (cells * side) / 2 ^ 24 + 2 ^ (-150 : ℤ) := by
  have counted := mul_le_mul_of_nonneg_right (rounded_count_error cells) positive.le
  rw [← abs_of_pos positive, ← abs_mul, abs_of_pos positive, sub_mul, div_mul_eq_mul_div] at counted
  have spanned : |rounded (rounded cells * side) - rounded cells * side| ≤
      |rounded cells * side| / 2 ^ 24 := by
    obtain ⟨whole, same⟩ := whole_of_rounded cells
    rw [same]
    exact walk_error sideGrid whole
  have halved := halving_error (rounded_on_grid (rounded cells * side))
  have length : 0 ≤ cells * side := mul_nonneg (Nat.cast_nonneg cells) positive.le
  have size := abs_le_of_error counted
  rw [abs_of_nonneg length] at size
  have first := abs_sub_le (half cells side) (rounded (rounded cells * side) / 2)
    (cells * side / 2)
  have second := abs_sub_le (rounded (rounded cells * side)) (rounded cells * side) (cells * side)
  rw [← sub_div, abs_div, abs_two] at first
  change |half cells side - _| ≤ _ at halved
  linarith

theorem half_one (sideGrid : OnGrid side) :
    |half 1 side - side / 2| ≤ 2 ^ (-150 : ℤ) := by
  have halved := halving_error sideGrid
  rwa [half, rounded_count (by norm_num), Nat.cast_one, one_mul, rounded_of_on_grid sideGrid]

theorem half_two (sideGrid : OnGrid side) : half 2 side = side := by
  have twice : OnGrid ((2 : ℕ) * side) := by
    obtain ⟨digits, power, few, floor, rfl⟩ := sideGrid
    refine ⟨digits, power + 1, few, by omega, ?_⟩
    rw [zpow_add_one₀ (by norm_num : (2 : ℚ) ≠ 0)]
    push_cast
    ring
  rw [half, rounded_count (by norm_num), rounded_of_on_grid twice, Nat.cast_ofNat,
    mul_div_cancel_left₀ side (by norm_num), rounded_of_on_grid sideGrid]

theorem least_le_side (sideGrid : OnGrid side) (positive : 0 < side) :
    (2 : ℚ) ^ (-150 : ℤ) ≤ side / 2 := by
  have least := least_le_abs (multiple_of_on_grid sideGrid) positive.ne'
  rw [abs_of_pos positive] at least
  norm_num at least ⊢
  linarith

theorem half_wide (sideGrid : OnGrid side) (positive : 0 < side) (wide : 2 ≤ cells) :
    |half cells side - cells * side / 2| ≤
      2 * (cells * side) / 2 ^ 24 + (cells * side - side) / 4 := by
  rcases wide.eq_or_lt with rfl | more
  · rw [half_two sideGrid, Nat.cast_ofNat, mul_div_cancel_left₀ side (by norm_num), sub_self,
      abs_zero]
    linarith
  · have error := half_error sideGrid positive cells
    have least := least_le_side sideGrid positive
    have three : (3 : ℚ) ≤ cells := by exact_mod_cast more
    nlinarith

end Half

def Holds (cells : ℕ) (side corner center : ℚ) : Prop :=
  0 ≤ rounded (rounded (center - corner) / side) ∧
    rounded (rounded (center - corner) / side) < rounded cells

section Window

variable {cells : ℕ} {corner side center target reach : ℚ}

theorem wanted_error (centerGrid : OnGrid center) (cells : ℕ) (side : ℚ) :
    |wanted cells side center - (center - half cells side)| ≤
      |center - half cells side| / 2 ^ 24 :=
  length_error (rounded_on_grid _) centerGrid

theorem holds_of_inside (cornerGrid : OnGrid corner) (centerGrid : OnGrid center)
    (positive : 0 < side) (some : 1 ≤ cells) (after : corner ≤ center)
    (short : center - corner + 4 * (cells * side) / 2 ^ 24 < cells * side) :
    Holds cells side corner center := by
  have nonneg := rounded_mono (sub_nonneg.mpr after)
  rw [rounded_zero] at nonneg
  have ratioNonneg := rounded_mono (div_nonneg nonneg positive.le)
  rw [rounded_zero] at ratioNonneg
  refine ⟨ratioNonneg, ?_⟩
  have measured := length_error cornerGrid centerGrid
  have divided := quotient_error positive (rounded (center - corner))
  have counted := (abs_le.mp (rounded_count_error cells)).1
  have one : side ≤ cells * side := by
    have : (1 : ℚ) ≤ cells := by exact_mod_cast some
    nlinarith
  have countedSide : cells * side - cells * side / 2 ^ 24 ≤ rounded cells * side := by nlinarith
  rw [abs_of_nonneg (sub_nonneg.mpr after)] at measured
  rw [abs_of_nonneg nonneg] at divided
  have measuredHigh := (abs_le.mp measured).2
  have dividedHigh := (abs_le.mp divided).2
  have below : rounded (rounded (center - corner) / side) * side < rounded cells * side := by
    linarith
  exact lt_of_mul_lt_mul_right below positive.le

/-- A window of two cells or more holds its center, as long as all lies within so many cells
of the world's origin that the roundings do not use up what a window has to spare. -/
theorem holds_wide (sideGrid : OnGrid side) (cornerGrid : OnGrid corner)
    (centerGrid : OnGrid center) (positive : 0 < side) (wide : 2 ≤ cells) (enough : 1 ≤ reach)
    (bounded : reach ≤ 2 ^ 17 * (cells - 1)) (cornerNear : |corner| ≤ reach * side)
    (centerNear : |center| ≤ reach * side) :
    Holds cells side (place corner side (wanted cells side center)) center := by
  have halved := half_wide sideGrid positive wide
  have wantedError := wanted_error centerGrid cells side
  have length : 2 * side ≤ cells * side := by
    have : (2 : ℚ) ≤ cells := by exact_mod_cast wide
    nlinarith
  have spare : reach * side ≤ 2 ^ 17 * (cells * side - side) := by nlinarith
  have sideReach : side ≤ reach * side := by nlinarith
  have halfSize := abs_le_of_error halved
  rw [abs_of_nonneg (by linarith : 0 ≤ cells * side / 2)] at halfSize
  have apart : |center - half cells side| ≤ |center| + |half cells side| := abs_sub _ _
  have wantedSize := abs_le_of_error wantedError
  have wantedNear : |wanted cells side center| ≤ (2 * reach + 2 * cells) * side := by linarith
  have cornerWithin : |corner| ≤ (2 * reach + 2 * cells) * side := by linarith
  have enoughTwice : 1 ≤ 2 * reach + 2 * (cells : ℚ) := by
    have : (0 : ℚ) ≤ cells := Nat.cast_nonneg cells
    linarith
  have wantedGrid : OnGrid (wanted cells side center) := rounded_on_grid _
  have distance := count_distance cornerGrid wantedGrid positive enoughTwice cornerWithin wantedNear
  have drifted := place_drift sideGrid cornerGrid wantedGrid positive enoughTwice cornerWithin
    wantedNear
  -- The center is half a window from the corner it wants, and the place of that corner is half a
  -- cell from it: what is left on either side is more than all the roundings together.
  obtain ⟨halfLow, halfHigh⟩ := abs_le.mp halved
  obtain ⟨wantedLow, wantedHigh⟩ := abs_le.mp wantedError
  obtain ⟨countLow, countHigh⟩ := abs_le.mp distance
  obtain ⟨driftLow, driftHigh⟩ := abs_le.mp drifted
  apply holds_of_inside (place_on_grid corner side _) centerGrid positive (by omega)
  · linarith
  · linarith

/-- A window of one cell holds its center when that keeps clear of the lines between cells. Where
the numbers are so small that half a cell cannot be told, the least number there is keeps it
clear of them as well. -/
theorem holds_one (sideGrid : OnGrid side) (cornerGrid : OnGrid corner)
    (centerGrid : OnGrid center) (positive : 0 < side) (enough : 1 ≤ reach)
    (cornerNear : |corner| ≤ reach * side) (centerNear : |center| ≤ reach * side)
    (clear : ∀ line : ℤ, reach * side / 2 ^ 17 < |center - corner - line * side|) :
    Holds 1 side (place corner side (wanted 1 side center)) center := by
  have halved := half_one sideGrid
  have least := least_le_side sideGrid positive
  have sideReach : side ≤ reach * side := by nlinarith
  have beside (line : ℤ) : 2 * 2 ^ (-150 : ℤ) ≤ |center - corner - line * side| := by
    have whole := multiple_sub
      (multiple_sub (multiple_of_on_grid centerGrid) (multiple_of_on_grid cornerGrid))
      (multiple_int_mul line (multiple_of_on_grid sideGrid))
    have apart := least_le_abs whole (abs_pos.mp (by linarith [clear line]))
    norm_num at apart ⊢
    linarith
  generalize (2 : ℚ) ^ (-150 : ℤ) = last at halved least beside
  have wantedError := wanted_error centerGrid 1 side
  have halfSize := abs_le_of_error halved
  rw [abs_of_pos (half_pos positive)] at halfSize
  have apart : |center - half 1 side| ≤ |center| + |half 1 side| := abs_sub _ _
  have wantedSize := abs_le_of_error wantedError
  have wantedNear : |wanted 1 side center| ≤ 3 * reach * side := by linarith
  have cornerWithin : |corner| ≤ 3 * reach * side := by linarith
  have enoughThrice : 1 ≤ 3 * reach := by linarith
  have wantedGrid : OnGrid (wanted 1 side center) := rounded_on_grid _
  have distance := count_distance cornerGrid wantedGrid positive enoughThrice cornerWithin
    wantedNear
  have drifted := place_drift sideGrid cornerGrid wantedGrid positive enoughThrice cornerWithin
    wantedNear
  obtain ⟨halfLow, halfHigh⟩ := abs_le.mp halved
  obtain ⟨wantedLow, wantedHigh⟩ := abs_le.mp wantedError
  obtain ⟨countLow, countHigh⟩ := abs_le.mp distance
  obtain ⟨driftLow, driftHigh⟩ := abs_le.mp drifted
  set count := count corner side (wanted 1 side center)
  -- The line before the center is that of the count, and the one after it is the next.
  have before : reach * side / 2 ^ 17 < center - corner - count * side := by
    rcases lt_abs.mp (clear count) with right | left
    · exact right
    · have far := beside count
      rw [abs_of_neg (by linarith)] at far
      linarith
  have behind : center - corner - count * side < side - reach * side / 2 ^ 17 := by
    have next := clear (count + 1)
    have far := beside (count + 1)
    push_cast at next far
    rcases lt_abs.mp next with right | left
    · rw [abs_of_pos (by linarith)] at far
      linarith
    · linarith
  apply holds_of_inside (place_on_grid corner side _) centerGrid positive le_rfl
  · linarith
  · rw [Nat.cast_one, one_mul]
    linarith

theorem holds_center (sideGrid : OnGrid side) (cornerGrid : OnGrid corner)
    (centerGrid : OnGrid center) (positive : 0 < side) (some : cells ≠ 0) (enough : 1 ≤ reach)
    (cornerNear : |corner| ≤ reach * side) (centerNear : |center| ≤ reach * side)
    (spare : reach ≤ 2 ^ 17 * (cells - 1) ∨
      ∀ line : ℤ, reach * side / 2 ^ 17 < |center - corner - line * side|) :
    Holds cells side (place corner side (wanted cells side center)) center := by
  rcases (Nat.one_le_iff_ne_zero.mpr some).eq_or_lt with rfl | wide
  · rcases spare with short | clear
    · rw [Nat.cast_one] at short
      linarith
    · exact holds_one sideGrid cornerGrid centerGrid positive enough cornerNear centerNear clear
  · apply holds_wide sideGrid cornerGrid centerGrid positive wide enough _ cornerNear centerNear
    rcases spare with short | clear
    · exact short
    · -- No place keeps farther from the lines than half a cell.
      have nearest := clear (round ((center - corner) / side))
      have half := abs_sub_round ((center - corner) / side)
      have scaled : |center - corner - round ((center - corner) / side) * side| ≤ side / 2 := by
        have apart : center - corner - round ((center - corner) / side) * side =
            ((center - corner) / side - round ((center - corner) / side)) * side := by
          rw [sub_mul, div_mul_cancel₀ _ positive.ne']
        rw [apart, abs_mul, abs_of_pos positive]
        linarith [mul_le_mul_of_nonneg_right half positive.le]
      have near : reach * side < 2 ^ 16 * side := by linarith
      have two : (2 : ℚ) ≤ cells := by exact_mod_cast wide
      linarith [lt_of_mul_lt_mul_right near positive.le]

end Window

end Axis

namespace Lattice

section Axis

variable {cells : UInt32} {corner side center : Float32}

def axisWanted (cells : UInt32) (side center : Float32) : Float32 :=
  center - cells.toFloat32 * side * 0.5

theorem finite_of_axis_wanted (finite : (axisWanted cells side center).isFinite = true) :
    center.isFinite = true ∧ (cells.toFloat32 * side).isFinite = true := by
  obtain ⟨centerFinite, halfFinite⟩ := finite_operands_of_sub finite
  exact ⟨centerFinite, (finite_operands_of_mul halfFinite).1⟩

theorem half_computes (windowFinite : (cells.toFloat32 * side).isFinite = true) :
    Computes (cells.toFloat32 * side * 0.5)
      (rounded (rounded cells.toNat * number side) / 2) := by
  have cellsFinite := of_uint32_finite cells
  have sideFinite := (finite_operands_of_mul windowFinite).2
  have halved := mul_computes windowFinite (show (0.5 : Float32).isFinite = true from rfl)
  rwa [(mul_computes cellsFinite sideFinite).number_eq windowFinite,
    (of_uint32_computes cells).number_eq cellsFinite, number_half, mul_one_div] at halved

theorem axis_wanted_value (finite : (axisWanted cells side center).isFinite = true) :
    number (axisWanted cells side center) =
      Axis.wanted cells.toNat (number side) (number center) := by
  obtain ⟨centerFinite, windowFinite⟩ := finite_of_axis_wanted finite
  have halfFinite := (finite_operands_of_sub finite).2
  rw [axisWanted, (sub_computes centerFinite halfFinite).number_eq finite,
    (half_computes windowFinite).number_eq halfFinite]
  rfl

theorem axis_wanted_finite (sideFinite : side.isFinite = true) (positive : 0 < number side)
    (centerFinite : center.isFinite = true)
    (windowSmall : number cells.toFloat32 * number side ≤ 2 ^ 127)
    (centerSmall : |number center| ≤ 2 ^ 127) :
    (axisWanted cells side center).isFinite = true := by
  have cellsFinite := of_uint32_finite cells
  have top : OnGrid (2 ^ 127) := by exact_mod_cast on_grid_two_pow (by norm_num : (-149 : ℤ) ≤ 127)
  have middle : OnGrid (2 ^ 126) := by
    exact_mod_cast on_grid_two_pow (by norm_num : (-149 : ℤ) ≤ 126)
  have most : OnGrid (2 ^ 127 + 2 ^ 126) := ⟨3, 126, by norm_num, by norm_num, by norm_num⟩
  have nonneg : 0 ≤ number cells.toFloat32 := by
    rw [(of_uint32_computes cells).number_eq cellsFinite]
    have ordered := rounded_mono (Nat.cast_nonneg cells.toNat : (0 : ℚ) ≤ cells.toNat)
    rwa [rounded_zero] at ordered
  -- The window, its half and the difference, each small because the one before is.
  have window := mul_computes cellsFinite sideFinite
  have windowLow : |rounded (number cells.toFloat32 * number side)| ≤ 2 ^ 127 := by
    apply abs_rounded_le top
    rwa [abs_of_nonneg (mul_nonneg nonneg positive.le)]
  have windowFinite := window.finite_iff.mpr (windowLow.trans_lt (by norm_num))
  have half := mul_computes windowFinite (show (0.5 : Float32).isFinite = true from rfl)
  rw [window.number_eq windowFinite, number_half] at half
  have halfLow : |rounded (rounded (number cells.toFloat32 * number side) * (1 / 2))| ≤
      2 ^ 126 := by
    apply abs_rounded_le middle
    rw [abs_mul, abs_of_pos (by norm_num : (0 : ℚ) < 1 / 2)]
    linarith
  have halfFinite := half.finite_iff.mpr (halfLow.trans_lt (by norm_num))
  have difference := sub_computes centerFinite halfFinite
  rw [half.number_eq halfFinite] at difference
  apply difference.finite_iff.mpr
  refine (abs_rounded_le most ?_).trans_lt (by norm_num)
  exact (abs_sub _ _).trans (add_le_add centerSmall halfLow)

def AxisHolds (cells : UInt32) (side corner center : Float32) : Prop :=
  (floor ((center - corner) / side)).isFinite = true ∧ ¬floor ((center - corner) / side) < 0 ∧
    ¬cells.toFloat32 ≤ floor ((center - corner) / side)

theorem axis_holds_iff (sideFinite : side.isFinite = true) (positive : 0 < number side)
    (cornerFinite : corner.isFinite = true) (centerFinite : center.isFinite = true)
    (windowFinite : (cells.toFloat32 * side).isFinite = true) :
    AxisHolds cells side corner center ↔
      Axis.Holds cells.toNat (number side) (number corner) (number center) := by
  have cellsFinite := of_uint32_finite cells
  have cellsValue := (of_uint32_computes cells).number_eq cellsFinite
  obtain ⟨whole, wholeEq⟩ := whole_of_rounded cells.toNat
  have checks (finite : ((center - corner) / side).isFinite = true) :
      AxisHolds cells side corner center ↔
        Axis.Holds cells.toNat (number side) (number corner) (number center) := by
    have value := quotient_value sideFinite positive finite
    obtain ⟨floorFinite, floorValue⟩ := floor_value finite
    rw [AxisHolds, lt_iff floorFinite rfl, le_iff cellsFinite floorFinite, number_zero, floorValue,
      cellsValue, wholeEq, value, Axis.Holds, wholeEq, not_lt, not_le]
    rw [Int.cast_nonneg_iff, Int.floor_nonneg, Int.cast_lt, Int.floor_lt]
    exact ⟨And.right, And.intro floorFinite⟩
  constructor
  · intro holds
    exact (checks (finite_of_floor holds.1)).mp holds
  · intro holds
    apply (checks ?_).mpr holds
    obtain ⟨low, high⟩ := holds
    set length := rounded (number center - number corner) with lengthEq
    have ratioHigh : length / number side < rounded cells.toNat := by
      by_contra beyond
      have ordered := rounded_mono (not_lt.mp beyond)
      rw [rounded_of_on_grid (rounded_on_grid _)] at ordered
      linarith
    have ratioLow : -1 < length / number side := by
      by_contra below
      have ordered := rounded_mono (not_lt.mp below)
      rw [rounded_neg, rounded_of_on_grid on_grid_one] at ordered
      linarith
    rw [lt_div_iff₀ positive, neg_one_mul] at ratioLow
    rw [div_lt_iff₀ positive] at ratioHigh
    have lengthSmall : |length| < 2 ^ 128 := by
      have sideSmall := abs_number_lt sideFinite
      have windowSmall := (mul_computes cellsFinite sideFinite).finite_iff.mp windowFinite
      have ordered := rounded_mono ratioHigh.le
      rw [lengthEq, rounded_of_on_grid (rounded_on_grid _), ← lengthEq, ← cellsValue] at ordered
      rw [abs_of_pos positive] at sideSmall
      rw [abs_lt] at windowSmall ⊢
      constructor <;> linarith
    have distance := sub_computes centerFinite cornerFinite
    have lengthFinite := distance.finite_iff.mpr lengthSmall
    have quotient := div_computes lengthFinite sideFinite positive.ne'
    rw [distance.number_eq lengthFinite, ← lengthEq] at quotient
    apply quotient.finite_iff.mpr
    have cellsSmall := abs_number_lt cellsFinite
    rw [cellsValue] at cellsSmall
    rw [abs_lt] at cellsSmall ⊢
    constructor <;> linarith

end Axis

variable {lattice : Lattice} {center : Point}

theorem cell_of_ok_iff (lattice : Lattice) (point : Point) :
    (∃ cell, lattice.cellOf point = .ok cell) ↔
      AxisHolds lattice.width lattice.resolution lattice.origin.x point.x ∧
        AxisHolds lattice.height lattice.resolution lattice.origin.y point.y := by
  set column := floor ((point.x - lattice.origin.x) / lattice.resolution) with columnEq
  set row := floor ((point.y - lattice.origin.y) / lattice.resolution) with rowEq
  have checks : lattice.cellOf point =
      if (!(column.isFinite && row.isFinite) || column < 0 || row < 0 ||
        lattice.width.toFloat32 ≤ column || lattice.height.toFloat32 ≤ row) = true
      then .error (.pointOutside point) else .ok (Point.toCell ⟨column, row⟩) := rfl
  rw [checks, AxisHolds, AxisHolds, ← columnEq, ← rowEq]
  split_ifs with rejected
  · simp only [Bool.or_eq_true, Bool.not_eq_true', decide_eq_true_eq, Bool.and_eq_false_iff]
      at rejected
    refine iff_of_false (by rintro ⟨cell, found⟩; cases found) ?_
    rintro ⟨⟨xFinite, left, right⟩, yFinite, bottom, top⟩
    rcases rejected with (((infinite | before) | before) | behind) | behind
    · simp [xFinite, yFinite] at infinite
    · exact left before
    · exact bottom before
    · exact right behind
    · exact top behind
  · simp only [Bool.or_eq_true, Bool.not_eq_true', decide_eq_true_eq, not_or,
      Bool.not_eq_false, Bool.and_eq_true] at rejected
    obtain ⟨⟨⟨⟨⟨xFinite, yFinite⟩, left⟩, bottom⟩, right⟩, top⟩ := rejected
    exact iff_of_true ⟨_, rfl⟩ ⟨⟨xFinite, left, right⟩, yFinite, bottom, top⟩

def centered (lattice : Lattice) (center : Point) : Point :=
  center - lattice.extent * (0.5 : Float32)

theorem cell_of_centered_iff (usable : lattice.Usable)
    (finite : (lattice.snap (lattice.centered center)).isFinite = true) :
    (∃ cell, cellOf { lattice with origin := lattice.snap (lattice.centered center) } center =
        .ok cell) ↔
      Axis.Holds lattice.width.toNat (number lattice.resolution)
          (Axis.place (number lattice.origin.x) (number lattice.resolution)
            (Axis.wanted lattice.width.toNat (number lattice.resolution) (number center.x)))
          (number center.x) ∧
        Axis.Holds lattice.height.toNat (number lattice.resolution)
          (Axis.place (number lattice.origin.y) (number lattice.resolution)
            (Axis.wanted lattice.height.toNat (number lattice.resolution) (number center.y)))
          (number center.y) := by
  obtain ⟨xFinite, yFinite⟩ := (finite_iff _).mp finite
  have axis {cells : UInt32} {corner place : Float32}
      (placeFinite :
        (axisSnap corner lattice.resolution (axisWanted cells lattice.resolution place)).isFinite =
          true) :
      AxisHolds cells lattice.resolution
          (axisSnap corner lattice.resolution (axisWanted cells lattice.resolution place)) place ↔
        Axis.Holds cells.toNat (number lattice.resolution)
          (Axis.place (number corner) (number lattice.resolution)
            (Axis.wanted cells.toNat (number lattice.resolution) (number place)))
          (number place) := by
    obtain ⟨-, wantedFinite, -⟩ := finite_of_axis_snap placeFinite
    obtain ⟨centerFinite, windowFinite⟩ := finite_of_axis_wanted wantedFinite
    rw [axis_holds_iff usable.finite usable.positive placeFinite centerFinite windowFinite,
      axis_snap_value usable.finite usable.positive placeFinite, axis_wanted_value wantedFinite]
  rw [cell_of_ok_iff]
  exact and_congr (axis xFinite) (axis yFinite)

end Lattice

end EvidenceGrid

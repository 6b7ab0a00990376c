import EvidenceGrid.Lattice
import EvidenceGrid.Proofs.Lattice.Axis

/-!
The moves of a lattice in binary32, read as exact numbers on each axis. A finite
result shows that every number on the way was finite, so the exact reading needs
no assumption about the target. The saturation of the shift does not hide a move:
a lattice has at least one cell on each side.
-/

set_option autoImplicit false

namespace EvidenceGrid.Lattice

open EvidenceGrid.Binary32

structure Usable (lattice : Lattice) : Prop where
  columns : lattice.width ≠ 0
  rows : lattice.height ≠ 0
  finite : lattice.resolution.isFinite = true
  positive : 0 < number lattice.resolution
  bounded : lattice.area ≤ cellLimit

theorem validate_ok_iff (lattice : Lattice) : lattice.validate = .ok () ↔ lattice.Usable := by
  rw [validate]
  split_ifs with empty width large
  · constructor
    · intro passed
      cases passed
    · intro usable
      rcases empty with none | none
      · exact absurd none usable.columns
      · exact absurd none usable.rows
  · constructor
    · intro passed
      cases passed
    · intro usable
      simp only [usable.finite, Bool.not_true, Bool.false_or, decide_eq_true_eq] at width
      rw [le_iff usable.finite rfl, number_zero] at width
      exact absurd usable.positive (not_lt.mpr width)
  · constructor
    · intro passed
      cases passed
    · intro usable
      exact absurd large (not_lt.mpr usable.bounded)
  · constructor
    · intro _
      simp only [Bool.or_eq_true, Bool.not_eq_true', decide_eq_true_eq, not_or,
        Bool.not_eq_false] at width
      obtain ⟨finite, positive⟩ := width
      rw [le_iff finite rfl, number_zero, not_le] at positive
      exact ⟨fun none => empty (Or.inl none), fun none => empty (Or.inr none), finite, positive,
        not_lt.mp large⟩
    · intro _
      rfl

theorem usable_moved {lattice : Lattice} (usable : lattice.Usable) (origin : Point) :
    Usable { lattice with origin } :=
  ⟨usable.columns, usable.rows, usable.finite, usable.positive, usable.bounded⟩

section Axis

variable {corner side target : Float32}

def axisCells (corner side target : Float32) : Float32 := nearest ((target - corner) / side)

def axisSnap (corner side target : Float32) : Float32 :=
  corner + axisCells corner side target * side

theorem quotient_value (sideFinite : side.isFinite = true) (positive : 0 < number side)
    (finite : ((target - corner) / side).isFinite = true) :
    number ((target - corner) / side) =
      rounded (rounded (number target - number corner) / number side) := by
  have lengthFinite := finite_dividend_of_div finite
  obtain ⟨targetFinite, cornerFinite⟩ := finite_operands_of_sub lengthFinite
  rw [(div_computes lengthFinite sideFinite positive.ne').number_eq finite,
    (sub_computes targetFinite cornerFinite).number_eq lengthFinite]

theorem axis_cells_value (sideFinite : side.isFinite = true) (positive : 0 < number side)
    (finite : (axisCells corner side target).isFinite = true) :
    number (axisCells corner side target) =
      Axis.count (number corner) (number side) (number target) := by
  have quotientFinite := finite_of_nearest finite
  rw [axisCells, (nearest_value quotientFinite).2,
    quotient_value sideFinite positive quotientFinite]
  rfl

theorem finite_of_axis_snap (finite : (axisSnap corner side target).isFinite = true) :
    corner.isFinite = true ∧ target.isFinite = true ∧
      (axisCells corner side target).isFinite = true := by
  obtain ⟨cornerFinite, walkFinite⟩ := finite_operands_of_add finite
  have cellsFinite := (finite_operands_of_mul walkFinite).1
  have lengthFinite := finite_dividend_of_div (finite_of_nearest cellsFinite)
  exact ⟨cornerFinite, (finite_operands_of_sub lengthFinite).1, cellsFinite⟩

theorem axis_snap_value (sideFinite : side.isFinite = true) (positive : 0 < number side)
    (finite : (axisSnap corner side target).isFinite = true) :
    number (axisSnap corner side target) =
      Axis.place (number corner) (number side) (number target) := by
  obtain ⟨cornerFinite, -, cellsFinite⟩ := finite_of_axis_snap finite
  have walkFinite := (finite_operands_of_add finite).2
  rw [axisSnap, (add_computes cornerFinite walkFinite).number_eq finite,
    (mul_computes cellsFinite sideFinite).number_eq walkFinite,
    axis_cells_value sideFinite positive cellsFinite]
  rfl

/-- Between points that lie near the world's origin, as cells and as numbers, nothing overflows. -/
theorem axis_snap_finite {reach : ℚ} (sideFinite : side.isFinite = true)
    (positive : 0 < number side) (cornerFinite : corner.isFinite = true)
    (targetFinite : target.isFinite = true) (enough : 1 ≤ reach) (few : reach ≤ 2 ^ 23)
    (small : reach * number side ≤ 2 ^ 126) (cornerNear : |number corner| ≤ reach * number side)
    (targetNear : |number target| ≤ reach * number side) :
    (axisSnap corner side target).isFinite = true := by
  have sideReach : number side ≤ reach * number side := by nlinarith
  have distance := Axis.count_distance (on_grid_number corner) (on_grid_number target) positive
    enough cornerNear targetNear
  have measured := Axis.abs_le_of_error
    (Axis.length_error (on_grid_number corner) (on_grid_number target))
  have walked := Axis.walk_error (on_grid_number side)
    (Axis.count (number corner) (number side) (number target))
  have reached := Axis.place_error (on_grid_number corner) (number side) (number target)
  have apart : |number target - number corner| ≤ |number target| + |number corner| := abs_sub _ _
  -- The difference, the quotient, the walk and the sum, each finite because the one before
  -- has a value and that value is small.
  have length := sub_computes targetFinite cornerFinite
  have lengthFinite := length.finite_iff.mpr (by linarith)
  have quotient := div_computes lengthFinite sideFinite positive.ne'
  rw [length.number_eq lengthFinite] at quotient
  have quotientFinite : ((target - corner) / side).isFinite = true := by
    apply quotient.finite_iff.mpr
    have ratio : |rounded (number target - number corner) / number side| ≤ 2 ^ 25 := by
      rw [abs_div, abs_of_pos positive, div_le_iff₀ positive]
      nlinarith
    have ratioSize := Axis.abs_le_of_error
      (rounded_error_le (rounded (number target - number corner) / number side))
    norm_num at ratioSize ⊢
    linarith
  have cellsFinite : (axisCells corner side target).isFinite = true :=
    (nearest_value quotientFinite).1
  have walk := mul_computes cellsFinite sideFinite
  rw [axis_cells_value sideFinite positive cellsFinite] at walk
  have cellsSize := Axis.abs_le_of_error distance
  have walkSize := Axis.abs_le_of_error walked
  have walkFinite := walk.finite_iff.mpr (by linarith)
  have sum := add_computes cornerFinite walkFinite
  rw [walk.number_eq walkFinite] at sum
  have sumSize := Axis.abs_le_of_error reached
  have placeSize : |number corner + rounded (Axis.count (number corner) (number side)
      (number target) * number side)| ≤ 2 ^ 127 := by
    obtain ⟨countLow, countHigh⟩ := abs_le.mp distance
    obtain ⟨walkLow, walkHigh⟩ := abs_le.mp walked
    obtain ⟨targetLow, targetHigh⟩ := abs_le.mp targetNear
    rw [abs_le]
    constructor <;> linarith
  exact sum.finite_iff.mpr (by
    change |Axis.place _ _ _| < _
    linarith)

theorem axis_snap_of_count_zero (sideFinite : side.isFinite = true) (positive : 0 < number side)
    (cornerFinite : corner.isFinite = true)
    (cellsFinite : (axisCells corner side target).isFinite = true)
    (none : Axis.count (number corner) (number side) (number target) = 0) :
    (axisSnap corner side target).isFinite = true ∧
      number (axisSnap corner side target) = number corner := by
  have cellsNumber := axis_cells_value sideFinite positive cellsFinite
  rw [none, Int.cast_zero] at cellsNumber
  have walk := mul_computes cellsFinite sideFinite
  rw [cellsNumber, zero_mul] at walk
  obtain ⟨walkFinite, walkNumber⟩ := walk.value_of_on_grid on_grid_zero (by norm_num)
  have sum := add_computes cornerFinite walkFinite
  rw [walkNumber, add_zero] at sum
  exact sum.value_of_on_grid (on_grid_number corner) (abs_number_lt cornerFinite)

theorem axis_cells_at_corner (sideFinite : side.isFinite = true) (positive : 0 < number side)
    (cornerFinite : corner.isFinite = true) (targetFinite : target.isFinite = true)
    (same : number target = number corner) : (axisCells corner side target).isFinite = true := by
  have length := sub_computes targetFinite cornerFinite
  rw [same, sub_self] at length
  obtain ⟨lengthFinite, lengthNumber⟩ := length.value_of_on_grid on_grid_zero (by norm_num)
  have quotient := div_computes lengthFinite sideFinite positive.ne'
  rw [lengthNumber, zero_div] at quotient
  exact (nearest_value (quotient.value_of_on_grid on_grid_zero (by norm_num)).1).1

theorem count_of_half (sideFinite : side.isFinite = true) (positive : 0 < number side)
    (near : ((target - corner) / side).abs < 0.5) :
    (axisCells corner side target).isFinite = true ∧
      Axis.count (number corner) (number side) (number target) = 0 := by
  have finite := finite_of_abs_lt near
  rw [abs_lt_iff_of_finite finite rfl, number_half,
    quotient_value sideFinite positive finite] at near
  exact ⟨(nearest_value finite).1, (round_away_eq_zero_iff _).mpr near⟩

theorem half_of_count (sideFinite : side.isFinite = true) (positive : 0 < number side)
    (cornerFinite : corner.isFinite = true) (targetFinite : target.isFinite = true)
    (none : Axis.count (number corner) (number side) (number target) = 0) :
    ((target - corner) / side).abs < 0.5 := by
  rw [Axis.count, round_away_eq_zero_iff] at none
  set length := rounded (number target - number corner) with lengthDef
  have short : |length| < number side := by
    by_contra long
    have ratio : 1 ≤ |length / number side| := by
      rw [abs_div, abs_of_pos positive, one_le_div positive]
      exact not_lt.mp long
    have := rounded_mono ratio
    rw [rounded_of_on_grid on_grid_one, ← rounded_abs] at this
    linarith
  have sideSmall := abs_number_lt sideFinite
  rw [abs_of_pos positive] at sideSmall
  have difference := sub_computes targetFinite cornerFinite
  have lengthFinite := difference.finite_iff.mpr (short.trans sideSmall)
  have quotient := div_computes lengthFinite sideFinite positive.ne'
  rw [difference.number_eq lengthFinite, ← lengthDef] at quotient
  have finite := quotient.finite_iff.mpr (none.trans (by norm_num))
  rw [abs_lt_iff_of_finite finite rfl, number_half, quotient.number_eq finite]
  exact none

/-- The saturation at the side of a map hides no move: a side has a cell at least. -/
theorem confined_shift_eq_zero_iff {cells : Float32} {side : UInt32} {whole : ℤ} (some : side ≠ 0)
    (finite : cells.isFinite = true) (value : number cells = whole) :
    toSigned (confine (-side.toFloat32) side.toFloat32 cells) = 0 ↔ whole = 0 := by
  have sideFinite := of_uint32_finite side
  obtain ⟨lowFinite, low⟩ := neg_value sideFinite
  obtain ⟨heldFinite, held⟩ := confine_value lowFinite sideFinite finite
  have one : 1 ≤ number side.toFloat32 := by
    have positive : 1 ≤ side.toNat :=
      Nat.one_le_iff_ne_zero.mpr fun zero => some (UInt32.toNat_inj.mp zero)
    have cast : (1 : ℚ) ≤ side.toNat := by exact_mod_cast positive
    have := rounded_mono cast
    rwa [rounded_of_on_grid on_grid_one, ← (of_uint32_computes side).number_eq sideFinite] at this
  rw [to_signed_eq_zero_iff heldFinite, held, low, value, abs_lt]
  constructor
  · rintro ⟨above, below⟩
    rcases lt_trichotomy whole 0 with negative | zero | positive
    · have : (whole : ℚ) ≤ -1 := by exact_mod_cast Int.le_sub_one_of_lt negative
      have : min (max (whole : ℚ) (-number side.toFloat32)) (number side.toFloat32) ≤ -1 :=
        (min_le_left _ _).trans (max_le this (by linarith))
      linarith
    · exact zero
    · have : (1 : ℚ) ≤ whole := by exact_mod_cast positive
      have : 1 ≤ min (max (whole : ℚ) (-number side.toFloat32)) (number side.toFloat32) :=
        le_min (this.trans (le_max_left _ _)) one
      linarith
  · rintro rfl
    rw [Int.cast_zero, max_eq_left (by linarith), min_eq_left (by linarith)]
    constructor <;> norm_num

end Axis

section Move

variable {lattice : Lattice} {target : Point}

theorem finite_iff (point : Point) :
    point.isFinite = true ↔ point.x.isFinite = true ∧ point.y.isFinite = true := by
  rw [Point.isFinite, Bool.and_eq_true]

def counts (lattice : Lattice) (target : Point) : Offset :=
  ⟨Axis.count (number lattice.origin.x) (number lattice.resolution) (number target.x),
    Axis.count (number lattice.origin.y) (number lattice.resolution) (number target.y)⟩

theorem shift_eq_zero_iff (usable : lattice.Usable)
    (finite : (lattice.cellsTo target).isFinite = true) :
    lattice.shiftTo target = .zero ↔ lattice.counts target = .zero := by
  obtain ⟨xFinite, yFinite⟩ := (finite_iff _).mp finite
  have xShift := confined_shift_eq_zero_iff usable.columns xFinite
    (axis_cells_value usable.finite usable.positive xFinite)
  have yShift := confined_shift_eq_zero_iff usable.rows yFinite
    (axis_cells_value usable.finite usable.positive yFinite)
  simp only [shiftTo, Point.toOffset, counts, Offset.zero, Offset.mk.injEq]
  exact and_congr xShift yShift

theorem finite_of_snap (finite : (lattice.snap target).isFinite = true) :
    lattice.origin.isFinite = true ∧ target.isFinite = true ∧
      (lattice.cellsTo target).isFinite = true := by
  obtain ⟨xFinite, yFinite⟩ := (finite_iff _).mp finite
  obtain ⟨cornerX, targetX, cellsX⟩ := finite_of_axis_snap xFinite
  obtain ⟨cornerY, targetY, cellsY⟩ := finite_of_axis_snap yFinite
  exact ⟨(finite_iff _).mpr ⟨cornerX, cornerY⟩, (finite_iff _).mpr ⟨targetX, targetY⟩,
    (finite_iff _).mpr ⟨cellsX, cellsY⟩⟩

end Move

/-- Equality of finite points as values, the zeros of both signs being the same. -/
def SamePlace (left right : Point) : Prop := (left.x == right.x) = true ∧ (left.y == right.y) = true

instance (left right : Point) : Decidable (SamePlace left right) :=
  inferInstanceAs (Decidable (_ ∧ _))

theorem same_place_iff {left right : Point} (leftFinite : left.isFinite = true)
    (rightFinite : right.isFinite = true) :
    SamePlace left right ↔ number left.x = number right.x ∧ number left.y = number right.y := by
  obtain ⟨leftX, leftY⟩ := (finite_iff _).mp leftFinite
  obtain ⟨rightX, rightY⟩ := (finite_iff _).mp rightFinite
  exact and_congr (beq_iff leftX rightX) (beq_iff leftY rightY)

theorem snap_of_no_shift {lattice : Lattice} {target : Point} (usable : lattice.Usable)
    (finite : (lattice.snap target).isFinite = true) (still : lattice.shiftTo target = .zero) :
    SamePlace lattice.origin (lattice.snap target) := by
  obtain ⟨cornerFinite, -, cellsFinite⟩ := finite_of_snap finite
  have none := (shift_eq_zero_iff usable cellsFinite).mp still
  obtain ⟨cornerX, cornerY⟩ := (finite_iff _).mp cornerFinite
  obtain ⟨cellsX, cellsY⟩ := (finite_iff _).mp cellsFinite
  rw [same_place_iff cornerFinite finite]
  exact ⟨(axis_snap_of_count_zero usable.finite usable.positive cornerX cellsX
      (congrArg Offset.x none)).2.symm,
    (axis_snap_of_count_zero usable.finite usable.positive cornerY cellsY
      (congrArg Offset.y none)).2.symm⟩

theorem same_place_settled {lattice : Lattice} {target : Point} (usable : lattice.Usable)
    (finite : (lattice.snap target).isFinite = true) :
    SamePlace (if lattice.shiftTo target = .zero then lattice.origin else lattice.snap target)
      (lattice.snap target) := by
  split_ifs with still
  · exact snap_of_no_shift usable finite still
  · exact (same_place_iff finite finite).mpr ⟨rfl, rfl⟩

end EvidenceGrid.Lattice

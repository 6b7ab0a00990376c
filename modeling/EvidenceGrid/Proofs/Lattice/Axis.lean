import EvidenceGrid.Proofs.Binary32.Error
import EvidenceGrid.Proofs.Binary32.Whole

/-!
One axis of a lattice in exact numbers: the cells counted from a corner to a
target, and the lattice place that this count leads to. Each of the four
roundings is bounded on its own. A place near the corner is found again when it
is counted a second time; a place that took at least one cell to reach takes at
least one to reach again, at any distance.
-/

set_option autoImplicit false

namespace EvidenceGrid.Axis

open EvidenceGrid.Binary32

/-- The cells from the corner to a target, to the nearest. -/
def count (corner side target : ℚ) : ℤ :=
  roundAway (rounded (rounded (target - corner) / side))

/-- Where so many cells from the corner lie. -/
def place (corner side target : ℚ) : ℚ :=
  rounded (corner + rounded (count corner side target * side))

section Steps

variable {side : ℚ}

theorem quotient_error (positive : 0 < side) (length : ℚ) :
    |rounded (length / side) * side - length| ≤ |length| / 2 ^ 24 + side / 2 ^ 150 := by
  have error := mul_le_mul_of_nonneg_right (rounded_error_le (length / side)) positive.le
  have scaled : |rounded (length / side) - length / side| * side =
      |rounded (length / side) * side - length| := by
    rw [← abs_of_pos positive, ← abs_mul, abs_of_pos positive, sub_mul,
      div_mul_cancel₀ _ positive.ne']
  have size : |length / side| * side = |length| := by
    rw [abs_div, abs_of_pos positive, div_mul_cancel₀ _ positive.ne']
  calc |rounded (length / side) * side - length|
      = |rounded (length / side) - length / side| * side := scaled.symm
    _ ≤ (|length / side| / 2 ^ 24 + 2 ^ (-150 : ℤ)) * side := error
    _ = |length / side| * side / 2 ^ 24 + side / 2 ^ 150 := by
        norm_num
        ring
    _ = |length| / 2 ^ 24 + side / 2 ^ 150 := by rw [size]

theorem count_error (positive : 0 < side) (length : ℚ) :
    |roundAway length * side - length * side| ≤ side / 2 := by
  have error := round_away_error length
  rw [← sub_mul, abs_mul, abs_of_pos positive]
  nlinarith

theorem abs_le_of_error {near exact bound : ℚ} (error : |near - exact| ≤ bound) :
    |near| ≤ |exact| + bound := by
  have triangle := abs_sub_abs_le_abs_sub near exact
  linarith

theorem size_of_rounded {exact : ℚ} (error : |rounded exact - exact| ≤ |exact| / 2 ^ 24) :
    |exact| ≤ |rounded exact| + |rounded exact| / 2 ^ 10 := by
  rw [abs_sub_comm] at error
  have size := abs_le_of_error error
  have nonneg := abs_nonneg (rounded exact)
  linarith

theorem walk_error (sideGrid : OnGrid side) (cells : ℤ) :
    |rounded (cells * side) - cells * side| ≤ |cells * side| / 2 ^ 24 :=
  rounded_relative (multiple_int_mul cells (multiple_of_on_grid sideGrid))

theorem length_error {corner target : ℚ} (cornerGrid : OnGrid corner) (targetGrid : OnGrid target) :
    |rounded (target - corner) - (target - corner)| ≤ |target - corner| / 2 ^ 24 :=
  rounded_relative
    (multiple_sub (multiple_of_on_grid targetGrid) (multiple_of_on_grid cornerGrid))

theorem place_error {corner : ℚ} (cornerGrid : OnGrid corner) (side target : ℚ) :
    |place corner side target - (corner + rounded (count corner side target * side))| ≤
      |corner + rounded (count corner side target * side)| / 2 ^ 24 :=
  rounded_relative
    (multiple_add (multiple_of_on_grid cornerGrid) (multiple_of_on_grid (rounded_on_grid _)))

theorem count_error_length (positive : 0 < side) (corner target : ℚ) :
    |count corner side target * side - rounded (target - corner)| ≤
      side / 2 + |rounded (target - corner)| / 2 ^ 24 + side / 2 ^ 150 := by
  have divided := quotient_error positive (rounded (target - corner))
  have counted := count_error positive (rounded (rounded (target - corner) / side))
  have triangle := abs_sub_le (count corner side target * side)
    (rounded (rounded (target - corner) / side) * side) (rounded (target - corner))
  change |count corner side target * side - _| ≤ _ at counted
  linarith

theorem side_le_cells (positive : 0 < side) {cells : ℤ} (some : cells ≠ 0) :
    side ≤ |cells * side| := by
  have one : (1 : ℚ) ≤ |(cells : ℚ)| := by exact_mod_cast Int.one_le_abs some
  rw [abs_mul, abs_of_pos positive]
  nlinarith

/-- Whole cells that are less than one cell apart are the same. -/
theorem cells_eq_of_close (positive : 0 < side) {first second : ℤ}
    (close : |first * side - second * side| < side) : first = second := by
  rw [← sub_mul, abs_mul, abs_of_pos positive] at close
  have apart : |(first : ℚ) - second| < 1 := by nlinarith
  exact sub_eq_zero.mp (Int.abs_lt_one_iff.mp (by exact_mod_cast apart))

end Steps

section Place

variable {corner side target : ℚ}

theorem place_on_grid (corner side target : ℚ) : OnGrid (place corner side target) :=
  rounded_on_grid _

theorem count_self (corner side : ℚ) : count corner side corner = 0 := by
  rw [count, sub_self, rounded_zero, zero_div, rounded_zero, round_away_eq_zero_iff]
  norm_num

theorem count_place (cornerGrid : OnGrid corner) (sideGrid : OnGrid side) (positive : 0 < side)
    (cornerNear : |corner| ≤ 2 ^ 20 * side)
    (placeNear : |place corner side target| ≤ 2 ^ 20 * side) :
    count corner side (place corner side target) = count corner side target := by
  have walked := walk_error sideGrid (count corner side target)
  have reached := place_error cornerGrid side target
  have measured := length_error cornerGrid (place_on_grid corner side target)
  have divided := quotient_error positive (rounded (place corner side target - corner))
  apply round_away_of_near
  set cells := count corner side target
  set final := place corner side target
  set walk := rounded (cells * side)
  set back := rounded (final - corner)
  set ratio := rounded (back / side)
  suffices near : |ratio * side - cells * side| < side / 2 by
    rw [← sub_mul, abs_mul, abs_of_pos positive] at near
    nlinarith
  -- The sizes of what is rounded, from the last place backwards.
  have reachSize : |corner + walk| ≤ |final| + |final| / 2 ^ 10 := size_of_rounded reached
  have walkSize : |walk| ≤ |corner + walk| + |corner| := by
    have := abs_sub (corner + walk) corner
    rwa [add_sub_cancel_left] at this
  have cellsSize : |cells * side| ≤ |walk| + |walk| / 2 ^ 10 := size_of_rounded walked
  have apart : |final - corner| ≤ |final| + |corner| := abs_sub _ _
  have backSize : |back| ≤ |final - corner| + |final - corner| / 2 ^ 24 :=
    abs_le_of_error measured
  have first := abs_sub_le (ratio * side) back (cells * side)
  have second := abs_sub_le back (final - corner) (cells * side)
  have third := abs_sub_le (final - corner) walk (cells * side)
  rw [sub_sub final corner walk] at third
  linarith

theorem place_place (cornerGrid : OnGrid corner) (sideGrid : OnGrid side) (positive : 0 < side)
    (cornerNear : |corner| ≤ 2 ^ 20 * side)
    (placeNear : |place corner side target| ≤ 2 ^ 20 * side) :
    place corner side (place corner side target) = place corner side target := by
  have again := count_place cornerGrid sideGrid positive cornerNear placeNear
  rw [place, again, ← place]

theorem walk_reaches (sideGrid : OnGrid side) (positive : 0 < side) (cornerGrid : OnGrid corner)
    (targetGrid : OnGrid target) (some : count corner side target ≠ 0) :
    |target - corner - rounded (count corner side target * side)| <
      |rounded (count corner side target * side)| := by
  have walked := walk_error sideGrid (count corner side target)
  have measured := length_error cornerGrid targetGrid
  have counted := count_error_length positive corner target
  have atLeast := side_le_cells positive some
  set cells := count corner side target
  set walk := rounded (cells * side)
  set length := rounded (target - corner)
  have walkSize : |cells * side| ≤ |walk| + |walk| / 2 ^ 10 := size_of_rounded walked
  have apartSize : |target - corner| ≤ |length| + |length| / 2 ^ 10 := size_of_rounded measured
  rw [abs_sub_comm] at walked measured counted
  have lengthSize : |length| ≤ 2 * |cells * side| := by
    have := abs_le_of_error counted
    linarith [abs_nonneg length]
  have first := abs_sub_le (target - corner) length walk
  have second := abs_sub_le length (cells * side) walk
  linarith

theorem place_ne_corner (sideGrid : OnGrid side) (positive : 0 < side) (cornerGrid : OnGrid corner)
    (targetGrid : OnGrid target) (some : count corner side target ≠ 0) :
    place corner side target ≠ corner := by
  intro stayed
  have reaches := walk_reaches sideGrid positive cornerGrid targetGrid some
  have nearest := rounded_nearest (corner + rounded (count corner side target * side)) targetGrid
  rw [← place, stayed, sub_add_cancel_left, abs_neg, ← sub_sub] at nearest
  linarith

/-- A place that took a cell or more to reach takes one or more to reach again. -/
theorem count_place_ne_zero (sideGrid : OnGrid side) (positive : 0 < side)
    (cornerGrid : OnGrid corner) (targetGrid : OnGrid target)
    (some : count corner side target ≠ 0) :
    count corner side (place corner side target) ≠ 0 := by
  have moved := place_ne_corner sideGrid positive cornerGrid targetGrid some
  have walkMultiple := multiple_of_on_grid
    (rounded_on_grid (count corner side target * side))
  have far := half_le_of_not_absorbed cornerGrid walkMultiple moved
  rw [← place] at far
  have walkSize : side ≤ |rounded (count corner side target * side)| := by
    have := rounded_mono (side_le_cells positive some)
    rwa [rounded_of_on_grid sideGrid, ← rounded_abs] at this
  have apart : side / 2 ≤ rounded |place corner side target - corner| := by
    have multiple := multiple_abs (multiple_sub
      (multiple_of_on_grid (place_on_grid corner side target)) (multiple_of_on_grid cornerGrid))
    exact half_le_rounded sideGrid multiple (by linarith) positive
  rw [← rounded_abs] at apart
  rw [Ne, count, round_away_eq_zero_iff, not_lt, rounded_abs, abs_div, abs_of_pos positive]
  have ratio : 1 / 2 ≤ |rounded (place corner side target - corner)| / side := by
    rw [le_div_iff₀ positive]
    linarith
  have := rounded_mono ratio
  rwa [rounded_of_on_grid on_grid_half] at this

end Place

/-- A distance that is farther than a margin from every half of a cell. -/
def ClearOfTies (margin distance side : ℚ) : Prop :=
  ∀ cells : ℤ, margin < |distance - (cells + 1 / 2) * side|

section Settled

variable {corner side target reach : ℚ}

/-- Near a whole number of cells a distance is clear of ties. -/
theorem clear_of_close {margin distance : ℚ} (positive : 0 < side) (cells : ℤ)
    (close : |distance - cells * side| < side / 2 - margin) : ClearOfTies margin distance side := by
  intro tie
  obtain ⟨low, high⟩ := abs_lt.mp close
  rw [lt_abs]
  rcases le_or_gt cells tie with before | beyond
  · have : (cells : ℚ) ≤ tie := by exact_mod_cast before
    right
    nlinarith
  · have : (tie : ℚ) + 1 ≤ cells := by exact_mod_cast beyond
    left
    nlinarith

theorem count_distance (cornerGrid : OnGrid corner) (targetGrid : OnGrid target)
    (positive : 0 < side) (enough : 1 ≤ reach) (cornerNear : |corner| ≤ reach * side)
    (targetNear : |target| ≤ reach * side) :
    |count corner side target * side - (target - corner)| ≤
      side / 2 + 5 * (reach * side) / 2 ^ 24 := by
  have measured := length_error cornerGrid targetGrid
  have counted := count_error_length positive corner target
  have sideReach : side ≤ reach * side := by nlinarith
  have apart : |target - corner| ≤ |target| + |corner| := abs_sub _ _
  have lengthSize := abs_le_of_error measured
  have triangle := abs_sub_le (count corner side target * side) (rounded (target - corner))
    (target - corner)
  linarith

/-- A place is where its count says, save for two roundings. -/
theorem place_drift (sideGrid : OnGrid side) (cornerGrid : OnGrid corner)
    (targetGrid : OnGrid target) (positive : 0 < side) (enough : 1 ≤ reach)
    (cornerNear : |corner| ≤ reach * side) (targetNear : |target| ≤ reach * side) :
    |place corner side target - (corner + count corner side target * side)| ≤
      7 * (reach * side) / 2 ^ 24 := by
  have distance := count_distance cornerGrid targetGrid positive enough cornerNear targetNear
  have walked := walk_error sideGrid (count corner side target)
  have reached := place_error cornerGrid side target
  set cells := count corner side target
  set walk := rounded (cells * side)
  have sideReach : side ≤ reach * side := by nlinarith
  have apart : |target - corner| ≤ |target| + |corner| := abs_sub _ _
  have cellsSize := abs_le_of_error distance
  have walkSize := abs_le_of_error walked
  have reachSize : |corner + walk| ≤ |corner| + |walk| := abs_add_le _ _
  have triangle := abs_sub_le (place corner side target) (corner + walk) (corner + cells * side)
  rw [add_sub_add_left_eq_sub] at triangle
  linarith

/-- A count that misses by less than the margin around the ties finds the nearest place. -/
theorem count_nearest {slack margin : ℚ} (small : slack ≤ margin)
    (distance : |count corner side target * side - (target - corner)| ≤ side / 2 + slack)
    (clear : ClearOfTies margin (target - corner) side) :
    |target - corner - count corner side target * side| < side / 2 - margin := by
  have above := clear (count corner side target)
  have below := clear (count corner side target - 1)
  push_cast at below
  obtain ⟨low, high⟩ := abs_le.mp distance
  rw [abs_lt]
  constructor
  · rcases lt_abs.mp below with clearOf | beyond <;> linarith
  · rcases lt_abs.mp above with beyond | clearOf <;> linarith

/-- The place that a target leads to lies less than half a cell from it, by a
margin, when the target is clear of ties. -/
theorem place_distance (sideGrid : OnGrid side) (cornerGrid : OnGrid corner)
    (targetGrid : OnGrid target) (positive : 0 < side) (enough : 1 ≤ reach)
    (cornerNear : |corner| ≤ reach * side) (targetNear : |target| ≤ reach * side)
    (clear : ClearOfTies (reach * side / 2 ^ 20) (target - corner) side) :
    |target - place corner side target| ≤ side / 2 - 9 * (reach * side) / 2 ^ 24 := by
  have distance := count_distance cornerGrid targetGrid positive enough cornerNear targetNear
  have sideReach : side ≤ reach * side := by nlinarith
  have settled := count_nearest (by linarith) distance clear
  have walked := walk_error sideGrid (count corner side target)
  have reached := place_error cornerGrid side target
  set cells := count corner side target
  set walk := rounded (cells * side)
  have apart : |target - corner| ≤ |target| + |corner| := abs_sub _ _
  have cellsSize := abs_le_of_error distance
  have walkSize := abs_le_of_error walked
  have reachSize : |corner + walk| ≤ |corner| + |walk| := abs_add_le _ _
  rw [abs_sub_comm] at walked reached
  have first := abs_sub_le (target - corner) (cells * side) walk
  have second := abs_sub_le target (corner + walk) (place corner side target)
  rw [← sub_sub] at second
  linarith

theorem count_settled (sideGrid : OnGrid side) (cornerGrid : OnGrid corner)
    (targetGrid : OnGrid target) (positive : 0 < side) (enough : 1 ≤ reach)
    (bounded : reach ≤ 2 ^ 19)
    (cornerNear : |corner| ≤ reach * side) (targetNear : |target| ≤ reach * side)
    (clear : ClearOfTies (reach * side / 2 ^ 20) (target - corner) side) :
    count (place corner side (place corner side target)) side target = 0 := by
  have distance := place_distance sideGrid cornerGrid targetGrid positive enough cornerNear
    targetNear clear
  have sideReach : side ≤ reach * side := by nlinarith
  have cap : reach * side ≤ 2 ^ 19 * side := mul_le_mul_of_nonneg_right bounded positive.le
  have placeNear : |place corner side target| ≤ 2 ^ 20 * side := by
    rw [abs_sub_comm] at distance
    have := abs_le_of_error distance
    linarith
  rw [place_place cornerGrid sideGrid positive (by linarith) placeNear, count,
    round_away_eq_zero_iff]
  have measured := length_error (place_on_grid corner side target) targetGrid
  have divided := quotient_error positive (rounded (target - place corner side target))
  set length := rounded (target - place corner side target)
  set ratio := rounded (length / side)
  have lengthSize := abs_le_of_error measured
  have ratioSize := abs_le_of_error divided
  rw [abs_mul, abs_of_pos positive] at ratioSize
  have near : |ratio| * side < 1 / 2 * side := by linarith
  exact lt_of_mul_lt_mul_right near positive.le

end Settled

end EvidenceGrid.Axis

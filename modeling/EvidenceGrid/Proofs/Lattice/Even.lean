import EvidenceGrid.Proofs.Lattice.Exact
import EvidenceGrid.Proofs.Lattice.Window

/-!
Windows of which all lengths but the quotients are computed without rounding. A quotient is
rounded then, but too little to be taken for another whole number or another half, so the
window lies where exact numbers put it. It holds the place that it is centered on, save for one
case: the place on a line between cells, in a window of one cell that a half sends the wrong way.
-/

set_option autoImplicit false

namespace EvidenceGrid

open EvidenceGrid.Binary32

namespace Axis

/-- Numbers so even that a window around a place is computed with no rounding but that of
quotients: the window, the corner and the place count one power of two, and the cell counts
twice as much, so that half a window counts it too. -/
structure Even (power : ℤ) (cells : ℕ) (side corner center : ℚ) : Prop where
  floor : -149 ≤ power
  sideUnits : CountsUnits (power + 1) side
  cornerUnits : CountsUnits power corner
  centerUnits : CountsUnits power center
  cellsFew : cells * side ≤ 2 ^ 21 * 2 ^ power
  cornerFew : |corner| ≤ 2 ^ 21 * 2 ^ power
  centerFew : |center| ≤ 2 ^ 21 * 2 ^ power

section Even

variable {power : ℤ} {cells : ℕ} {side corner center : ℚ}

theorem Even.side_units (even : Even power cells side corner center) (positive : 0 < side)
    (some : 1 ≤ cells) :
    ∃ halves : ℤ, side = 2 * halves * 2 ^ power ∧ 1 ≤ halves ∧ halves ≤ 2 ^ 20 := by
  have unit : (0 : ℚ) < 2 ^ power := by positivity
  obtain ⟨halves, units, one⟩ := halves_of_units even.sideUnits positive
  refine ⟨halves, units, one, ?_⟩
  have oneCell : (1 : ℚ) ≤ cells := by exact_mod_cast some
  have few : 2 * (halves : ℚ) * 2 ^ power ≤ 2 ^ 21 * 2 ^ power := by
    rw [← units]
    nlinarith [even.cellsFew]
  have := le_of_mul_le_mul_right few unit
  have : (halves : ℚ) ≤ 2 ^ 20 := by linarith
  exact_mod_cast this

theorem Even.cells_le (even : Even power cells side corner center) (positive : 0 < side) :
    cells ≤ 2 ^ 20 := by
  have few : (cells : ℚ) ≤ 2 ^ 20 := by
    apply cells_le_of_units even.sideUnits positive
    linarith [even.cellsFew]
  exact_mod_cast few

theorem Even.rounded_cells (even : Even power cells side corner center) (positive : 0 < side) :
    rounded cells = cells :=
  rounded_count ((even.cells_le positive).trans (by norm_num))

theorem halves_on_grid (few : cells ≤ 2 ^ 20) :
    OnGrid (((cells : ℚ) - 1) / 2) ∧ OnGrid (((cells : ℚ) + 1) / 2) := by
  have halved (count : ℤ) (small : |count| ≤ 2 ^ 24) : OnGrid ((count : ℚ) / 2) :=
    ⟨count, -1, small, by norm_num, by norm_num; ring⟩
  have less := halved (cells - 1) (by rw [abs_le]; omega)
  have more := halved (cells + 1) (by rw [abs_le]; omega)
  push_cast at less more
  exact ⟨less, more⟩

theorem Even.half_window (even : Even power cells side corner center) (positive : 0 < side)
    (some : 1 ≤ cells) :
    half cells side = cells * side / 2 ∧ CountsUnits power (cells * side / 2) := by
  have unit : (0 : ℚ) < 2 ^ power := by positivity
  have length : 0 ≤ cells * side := mul_nonneg (Nat.cast_nonneg cells) positive.le
  obtain ⟨halves, units, -⟩ := even.side_units positive some
  have halfUnits : CountsUnits power (cells * side / 2) := by
    refine ⟨cells * halves, ?_⟩
    rw [units]
    push_cast
    ring
  have spanUnits : CountsUnits power (cells * side) := by
    refine ⟨cells * (2 * halves), ?_⟩
    rw [units]
    push_cast
    ring
  have few := even.cellsFew
  have span := on_grid_of_units even.floor spanUnits (by rw [abs_of_nonneg length]; linarith)
  have own := on_grid_of_units even.floor halfUnits (by rw [abs_of_nonneg] <;> linarith)
  refine ⟨?_, halfUnits⟩
  rw [half, even.rounded_cells positive, rounded_of_on_grid span,
    rounded_of_on_grid own]

theorem Even.wanted_exact (even : Even power cells side corner center) (positive : 0 < side)
    (some : 1 ≤ cells) :
    wanted cells side center = center - cells * side / 2 ∧
      rounded (wanted cells side center - corner) = center - cells * side / 2 - corner ∧
      CountsUnits power (center - cells * side / 2 - corner) ∧
      |center - cells * side / 2 - corner| ≤ 2 ^ 23 * 2 ^ power := by
  have length : 0 ≤ cells * side := mul_nonneg (Nat.cast_nonneg cells) positive.le
  obtain ⟨halved, halfUnits⟩ := even.half_window positive some
  have unit : (0 : ℚ) < 2 ^ power := by positivity
  have few := even.cellsFew
  have wantedUnits := units_sub even.centerUnits halfUnits
  have apartUnits := units_sub wantedUnits even.cornerUnits
  have wantedSize := abs_sub center (cells * side / 2)
  have apartSize := abs_sub (center - cells * side / 2) corner
  rw [abs_of_nonneg (by linarith : 0 ≤ cells * side / 2)] at wantedSize
  have own := on_grid_of_units even.floor wantedUnits (by linarith [even.centerFew])
  have apart := on_grid_of_units even.floor apartUnits
    (by linarith [even.centerFew, even.cornerFew])
  have value : wanted cells side center = center - cells * side / 2 := by
    rw [wanted, halved, rounded_of_on_grid own]
  refine ⟨value, ?_, apartUnits, by linarith [even.centerFew, even.cornerFew]⟩
  rw [value, rounded_of_on_grid apart]

theorem Even.count_of_tie (even : Even power cells side corner center) (positive : 0 < side)
    (some : 1 ≤ cells) {line : ℤ}
    (tie : center - cells * side / 2 - corner = (line - 1 / 2) * side) :
    count corner side (wanted cells side center) = if 0 < line then line else line - 1 := by
  obtain ⟨-, apart, -, few⟩ := even.wanted_exact positive some
  obtain ⟨halves, units, one, -⟩ := even.side_units positive some
  have unit : (0 : ℚ) < 2 ^ power := by positivity
  have ratio : (line - 1 / 2) * side / side = ((2 * line - 1 : ℤ) : ℚ) * 2 ^ (-1 : ℤ) := by
    rw [mul_div_cancel_right₀ _ positive.ne']
    push_cast
    norm_num
    ring
  have digits : |2 * line - 1| ≤ 2 ^ 24 := by
    have oneCast : (1 : ℚ) ≤ halves := by exact_mod_cast one
    have small : 2 * (2 : ℚ) ^ power ≤ side := by
      rw [units]
      nlinarith
    rw [tie, abs_mul, abs_of_pos positive] at few
    have bound : |(line : ℚ) - 1 / 2| * (2 * 2 ^ power) ≤ 2 ^ 22 * (2 * 2 ^ power) := by
      have := mul_le_mul_of_nonneg_left small (abs_nonneg ((line : ℚ) - 1 / 2))
      linarith
    have near := le_of_mul_le_mul_right bound (by linarith)
    have double : |((2 * line - 1 : ℤ) : ℚ)| ≤ 2 ^ 24 := by
      rw [abs_le] at near ⊢
      push_cast
      constructor <;> linarith
    exact_mod_cast double
  have own : OnGrid (((2 * line - 1 : ℤ) : ℚ) * 2 ^ (-1 : ℤ)) :=
    ⟨2 * line - 1, -1, digits, by norm_num, rfl⟩
  have value : ((2 * line - 1 : ℤ) : ℚ) * 2 ^ (-1 : ℤ) = line - 1 / 2 := by
    push_cast
    norm_num
    ring
  rw [count, apart, tie, ratio, rounded_of_on_grid own, value, roundAway]
  split_ifs with negative ahead ahead
  · have : (1 : ℚ) ≤ line := by exact_mod_cast ahead
    linarith
  · rw [neg_eq_iff_eq_neg, Int.floor_eq_iff]
    push_cast
    constructor <;> linarith
  · rw [Int.floor_eq_iff]
    constructor <;> linarith
  · have : (line : ℚ) ≤ 0 := by exact_mod_cast not_lt.mp ahead
    linarith

theorem Even.count_of_clear (even : Even power cells side corner center) (positive : 0 < side)
    (some : 1 ≤ cells)
    (clear : ∀ line : ℤ, center - cells * side / 2 - corner ≠ (line - 1 / 2) * side) :
    |center - cells * side / 2 - corner - count corner side (wanted cells side center) * side| ≤
      side / 2 - 2 ^ power := by
  obtain ⟨-, apart, ⟨length, lengthUnits⟩, few⟩ := even.wanted_exact positive some
  obtain ⟨halves, units, one, small⟩ := even.side_units positive some
  have unit : (0 : ℚ) < 2 ^ power := by positivity
  set distance := center - cells * side / 2 - corner
  set nearest := round (distance / side)
  have half : |distance - nearest * side| ≤ side / 2 := by
    have apartHalf := mul_le_mul_of_nonneg_right (abs_sub_round (distance / side)) positive.le
    rw [← abs_of_pos positive, ← abs_mul, abs_of_pos positive, sub_mul,
      div_mul_cancel₀ _ positive.ne'] at apartHalf
    linarith
  -- In units the distance to the nearest place is a whole number, and not half a cell.
  have wholeUnits : distance - nearest * side = ((length - 2 * halves * nearest : ℤ) : ℚ) *
      2 ^ power := by
    rw [lengthUnits, units]
    push_cast
    ring
  have inside : |length - 2 * halves * nearest| ≤ halves := by
    rw [wholeUnits, abs_mul, abs_of_pos unit, units] at half
    have := le_of_mul_le_mul_right (half.trans_eq (by ring : _ = (halves : ℚ) * 2 ^ power)) unit
    exact_mod_cast this
  have notHalf : |length - 2 * halves * nearest| ≠ halves := by
    intro exactly
    rcases (abs_eq (by omega)).mp exactly with above | below
    · apply clear (nearest + 1)
      have : distance = nearest * side + halves * 2 ^ power := by
        rw [above] at wholeUnits
        linarith
      rw [this, units]
      push_cast
      ring
    · apply clear nearest
      have : distance = nearest * side - halves * 2 ^ power := by
        rw [below] at wholeUnits
        push_cast at wholeUnits
        linarith
      rw [this, units]
      ring
  have close : |distance - nearest * side| ≤ side / 2 - 2 ^ power := by
    have strict : |length - 2 * halves * nearest| ≤ halves - 1 := by omega
    have strictCast : |((length - 2 * halves * nearest : ℤ) : ℚ)| ≤ halves - 1 := by
      exact_mod_cast strict
    rw [wholeUnits, abs_mul, abs_of_pos unit, units]
    nlinarith
  have counted : count corner side (wanted cells side center) = nearest := by
    have divided := quotient_error positive distance
    have smallCast : (halves : ℚ) ≤ 2 ^ 20 := by exact_mod_cast small
    have sideFew : side ≤ 2 ^ 21 * 2 ^ power := by
      rw [units]
      nlinarith
    rw [count, apart]
    apply round_away_of_near
    have triangle := abs_sub_le (rounded (distance / side) * side) distance (nearest * side)
    have near : |rounded (distance / side) * side - nearest * side| < 1 / 2 * side := by
      linarith
    rw [← sub_mul, abs_mul, abs_of_pos positive] at near
    exact lt_of_mul_lt_mul_right near positive.le
  rw [counted]
  exact close

theorem Even.holds_iff_ratio (even : Even power cells side corner center) (positive : 0 < side)
    (some : 1 ≤ cells) {inside : ℚ} (within : |inside| ≤ cells)
    (same : center - corner - count corner side (wanted cells side center) * side =
      inside * side) :
    Holds cells side (place corner side (wanted cells side center)) center ↔
      0 ≤ rounded inside ∧ rounded inside < cells := by
  set moved := count corner side (wanted cells side center)
  obtain ⟨halves, units, -⟩ := even.side_units positive some
  have unit : (0 : ℚ) < 2 ^ power := by positivity
  have sideUnits : CountsUnits power side := ⟨2 * halves, by rw [units]; push_cast; rfl⟩
  have few := even.cellsFew
  have centerFew := even.centerFew
  have cornerFew := even.cornerFew
  have insideFew : |inside * side| ≤ cells * side := by
    rw [abs_mul, abs_of_pos positive]
    exact mul_le_mul_of_nonneg_right within positive.le
  have apart := abs_sub center corner
  have walkFew : |moved * side| ≤ 2 ^ 24 * 2 ^ power := by
    have walked : moved * side = center - corner - inside * side := by linarith
    have size := abs_sub (center - corner) (inside * side)
    rw [walked]
    linarith
  have reachFew : |corner + moved * side| ≤ 2 ^ 24 * 2 ^ power := by
    have reached : corner + moved * side = center - inside * side := by linarith
    have size := abs_sub center (inside * side)
    rw [reached]
    linarith
  have walk := on_grid_of_units even.floor (units_of_walk sideUnits moved) walkFew
  have reach := on_grid_of_units even.floor (units_of_move even.cornerUnits sideUnits moved)
    reachFew
  have exact : place corner side (wanted cells side center) = corner + moved * side := by
    rw [place, rounded_of_on_grid walk, rounded_of_on_grid reach]
  have lengthUnits := units_sub even.centerUnits (units_of_move even.cornerUnits sideUnits moved)
  rw [← sub_sub, same] at lengthUnits
  have length := on_grid_of_units even.floor lengthUnits (by linarith)
  rw [Holds, exact, ← sub_sub, same, rounded_of_on_grid length,
    mul_div_cancel_right₀ _ positive.ne', even.rounded_cells positive]

/-- A center whose wanted corner is half-way between two places: the window ends at the center or
has its last half cell there. -/
theorem Even.holds_of_tie (even : Even power cells side corner center) (positive : 0 < side)
    (some : 1 ≤ cells) {line : ℤ}
    (tie : center - cells * side / 2 - corner = (line - 1 / 2) * side) :
    Holds cells side (place corner side (wanted cells side center)) center ↔
      0 < line ∨ cells ≠ 1 := by
  have one : (1 : ℚ) ≤ cells := by exact_mod_cast some
  have few := even.cells_le positive
  have counted := even.count_of_tie positive some tie
  by_cases ahead : 0 < line
  · rw [if_pos ahead] at counted
    have within : |((cells : ℚ) - 1) / 2| ≤ cells := by
      rw [abs_of_nonneg] <;> linarith
    rw [even.holds_iff_ratio positive some within (by rw [counted]; linarith),
      rounded_of_on_grid (halves_on_grid few).1]
    refine iff_of_true ?_ (.inl ahead)
    constructor <;> linarith
  · rw [if_neg ahead] at counted
    have within : |((cells : ℚ) + 1) / 2| ≤ cells := by
      rw [abs_of_nonneg] <;> linarith
    rw [even.holds_iff_ratio positive some within (by rw [counted]; push_cast; linarith),
      rounded_of_on_grid (halves_on_grid few).2]
    constructor
    · rintro ⟨-, below⟩
      refine .inr ?_
      rintro rfl
      norm_num at below
    · rintro (before | several)
      · exact absurd before ahead
      · have two : (2 : ℚ) ≤ cells := by exact_mod_cast (by omega : 2 ≤ cells)
        constructor <;> linarith

theorem Even.holds_of_clear (even : Even power cells side corner center) (positive : 0 < side)
    (some : 1 ≤ cells)
    (clear : ∀ line : ℤ, center - cells * side / 2 - corner ≠ (line - 1 / 2) * side) :
    Holds cells side (place corner side (wanted cells side center)) center := by
  have one : (1 : ℚ) ≤ cells := by exact_mod_cast some
  have near := even.count_of_clear positive some clear
  obtain ⟨halves, units, oneHalf, small⟩ := even.side_units positive some
  have unit : (0 : ℚ) < 2 ^ power := by positivity
  set moved := count corner side (wanted cells side center)
  set inside := (center - corner - moved * side) / side with insideEq
  have same : center - corner - moved * side = inside * side := by
    rw [insideEq, div_mul_cancel₀ _ positive.ne']
  obtain ⟨low, high⟩ := abs_le.mp near
  -- The center keeps a unit from the middle of the last cell but half a cell, and a unit is
  -- 2 ^ -21 of a cell at least.
  have insideLow : ((cells : ℚ) - 1) / 2 ≤ inside := by
    have : ((cells : ℚ) - 1) / 2 * side ≤ inside * side := by linarith
    exact le_of_mul_le_mul_right this positive
  have insideHigh : inside ≤ ((cells : ℚ) + 1) / 2 - 1 / 2 ^ 21 := by
    have smallCast : (halves : ℚ) ≤ 2 ^ 20 := by exact_mod_cast small
    have least : (1 : ℚ) / 2 ^ 21 * side ≤ 2 ^ power := by
      rw [units]
      nlinarith
    have : inside * side ≤ (((cells : ℚ) + 1) / 2 - 1 / 2 ^ 21) * side := by linarith
    exact le_of_mul_le_mul_right this positive
  rw [even.holds_iff_ratio positive some (by rw [abs_of_nonneg] <;> linarith) same]
  have nonneg := rounded_mono (by linarith : 0 ≤ inside)
  rw [rounded_zero] at nonneg
  refine ⟨nonneg, ?_⟩
  rcases some.eq_or_lt with rfl | several
  · have own : OnGrid (1 - 1 / 2 ^ 21) := ⟨2 ^ 21 - 1, -21, by norm_num, by norm_num, by norm_num⟩
    have below := rounded_mono (by push_cast at insideHigh; linarith :
      inside ≤ 1 - 1 / 2 ^ 21)
    rw [rounded_of_on_grid own] at below
    push_cast
    linarith
  · have few := even.cells_le positive
    have below := rounded_mono (by linarith : inside ≤ ((cells : ℚ) + 1) / 2)
    rw [rounded_of_on_grid (halves_on_grid few).2] at below
    have two : (2 : ℚ) ≤ cells := by exact_mod_cast several
    linarith

/-- Where nothing but quotients is rounded, a window holds its center, save a window of one cell
whose center is on a line between cells, at the corner of the map or before it. -/
theorem Even.holds_iff (even : Even power cells side corner center) (positive : 0 < side)
    (some : 1 ≤ cells) :
    Holds cells side (place corner side (wanted cells side center)) center ↔
      ¬(cells = 1 ∧ ∃ line : ℤ, line ≤ 0 ∧ center = corner + line * side) := by
  by_cases tie : ∃ line : ℤ, center - cells * side / 2 - corner = (line - 1 / 2) * side
  · obtain ⟨line, tie⟩ := tie
    rw [even.holds_of_tie positive some tie]
    constructor
    · rintro (ahead | several) ⟨rfl, other, before, same⟩
      · have : (other - line) * side = 0 := by
          rw [same] at tie
          push_cast at tie
          linarith
        have equal := (mul_eq_zero.mp this).resolve_right positive.ne'
        have : other = line := by exact_mod_cast sub_eq_zero.mp equal
        omega
      · exact several rfl
    · intro other
      by_contra neither
      obtain ⟨behind, single⟩ := not_or.mp neither
      rw [not_not] at single
      refine other ⟨single, line, not_lt.mp behind, ?_⟩
      rw [single] at tie
      push_cast at tie
      linarith
  · refine iff_of_true (even.holds_of_clear positive some (not_exists.mp tie)) ?_
    rintro ⟨rfl, line, -, same⟩
    apply tie
    refine ⟨line, ?_⟩
    rw [same]
    push_cast
    ring

end Even

section Decided

variable {cells : ℕ} {side corner center : ℚ}

/-- A window of one cell is centered on a line between cells that a half puts it before. -/
def OnLine (cells : ℕ) (side corner center : ℚ) : Prop :=
  cells = 1 ∧ ∃ line : ℤ, line ≤ 0 ∧ center = corner + line * side

/-- The window of an axis is known to hold its center: what it has to spare, or the distance of
the center from the lines between cells, is more than the roundings at this distance from the
world's origin, or nothing is rounded. -/
def Spares (cells : ℕ) (side corner center : ℚ) : Prop :=
  (∃ reach, 1 ≤ reach ∧ |corner| ≤ reach * side ∧ |center| ≤ reach * side ∧
    (reach ≤ 2 ^ 17 * (cells - 1) ∨
      ∀ line : ℤ, reach * side / 2 ^ 17 < |center - corner - line * side|)) ∨
  (∃ power, Even power cells side corner center) ∧ ¬OnLine cells side corner center

def Misses (cells : ℕ) (side corner center : ℚ) : Prop :=
  (∃ power, Even power cells side corner center) ∧ OnLine cells side corner center

theorem holds_of_spares (sideGrid : OnGrid side) (cornerGrid : OnGrid corner)
    (centerGrid : OnGrid center) (positive : 0 < side) (some : cells ≠ 0)
    (spares : Spares cells side corner center) :
    Holds cells side (place corner side (wanted cells side center)) center := by
  rcases spares with ⟨reach, enough, cornerNear, centerNear, room⟩ | ⟨⟨power, even⟩, beside⟩
  · exact holds_center sideGrid cornerGrid centerGrid positive some enough cornerNear centerNear
      room
  · exact (even.holds_iff positive (Nat.one_le_iff_ne_zero.mpr some)).mpr beside

theorem not_holds_of_misses (positive : 0 < side) (some : cells ≠ 0)
    (misses : Misses cells side corner center) :
    ¬Holds cells side (place corner side (wanted cells side center)) center := by
  obtain ⟨⟨power, even⟩, onLine⟩ := misses
  intro holds
  exact (even.holds_iff positive (Nat.one_le_iff_ne_zero.mpr some)).mp holds onLine

end Decided

end Axis

namespace Lattice

variable {lattice : Lattice} {center : Point}

def Spares (lattice : Lattice) (center : Point) : Prop :=
  Axis.Spares lattice.width.toNat (number lattice.resolution) (number lattice.origin.x)
      (number center.x) ∧
    Axis.Spares lattice.height.toNat (number lattice.resolution) (number lattice.origin.y)
      (number center.y)

def Misses (lattice : Lattice) (center : Point) : Prop :=
  Axis.Misses lattice.width.toNat (number lattice.resolution) (number lattice.origin.x)
      (number center.x) ∨
    Axis.Misses lattice.height.toNat (number lattice.resolution) (number lattice.origin.y)
      (number center.y)

theorem some_cells {side : UInt32} (some : side ≠ 0) : side.toNat ≠ 0 :=
  fun none => some (UInt32.toNat_inj.mp none)

theorem centered_found (usable : lattice.Usable)
    (finite : (lattice.snap (lattice.centered center)).isFinite = true)
    (spares : lattice.Spares center) :
    ∃ cell, cellOf { lattice with origin := lattice.snap (lattice.centered center) } center =
      .ok cell := by
  rw [cell_of_centered_iff usable finite]
  exact ⟨Axis.holds_of_spares (on_grid_number _) (on_grid_number _) (on_grid_number _)
      usable.positive (some_cells usable.columns) spares.1,
    Axis.holds_of_spares (on_grid_number _) (on_grid_number _) (on_grid_number _)
      usable.positive (some_cells usable.rows) spares.2⟩

theorem centered_lost (usable : lattice.Usable)
    (finite : (lattice.snap (lattice.centered center)).isFinite = true)
    (misses : lattice.Misses center) :
    ¬∃ cell, cellOf { lattice with origin := lattice.snap (lattice.centered center) } center =
      .ok cell := by
  rw [cell_of_centered_iff usable finite]
  rintro ⟨columns, rows⟩
  rcases misses with misses | misses
  · exact Axis.not_holds_of_misses usable.positive (some_cells usable.columns) misses columns
  · exact Axis.not_holds_of_misses usable.positive (some_cells usable.rows) misses rows

end Lattice

end EvidenceGrid

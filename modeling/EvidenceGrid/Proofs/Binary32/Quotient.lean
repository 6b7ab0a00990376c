import EvidenceGrid.Proofs.Binary32.Conversion
import EvidenceGrid.Proofs.Binary32.Error

/-!
Whole parts of rounded quotients. Two numbers of the grid that differ by no more than a side are
counted, by that side, to the same place or to neighbouring ones, although both quotients are
rounded. The quotient that is farther from zero may be brought to the next whole number from
twice as far as the other one, but only beyond a power of two, and there no number of the grid
lies near enough. The exact middle between two grid numbers would bring only one of them there,
and no quotient lies on it.
-/

set_option autoImplicit false

namespace EvidenceGrid.Binary32

theorem odd_digits_of_on_grid {number : ℚ} (grid : OnGrid number) (positive : 0 < number) :
    ∃ digits power : ℤ, Odd digits ∧ number = digits * 2 ^ power := by
  obtain ⟨digits, power, -, -, rfl⟩ := grid
  have unit : (0 : ℚ) < 2 ^ power := by positivity
  have digitsPositive : 0 < digits := by
    exact_mod_cast pos_of_mul_pos_left positive unit.le
  obtain ⟨count, part, odd, split⟩ :=
    Nat.exists_eq_two_pow_mul_odd (show digits.toNat ≠ 0 by omega)
  refine ⟨part, count + power, by exact_mod_cast odd, ?_⟩
  have digitsSplit : digits = 2 ^ count * part := by
    have cast : ((digits.toNat : ℕ) : ℤ) = ((2 ^ count * part : ℕ) : ℤ) := by rw [split]
    rw [Int.toNat_of_nonneg digitsPositive.le] at cast
    exact_mod_cast cast
  rw [digitsSplit, zpow_add₀ (by norm_num : (2 : ℚ) ≠ 0), zpow_natCast]
  push_cast
  ring

section Middle

variable {product side : ℚ}

theorem quotient_digits_le (grid : OnGrid product) (sideGrid : OnGrid side) (positive : 0 < side)
    {digits power : ℤ} (odd : Odd digits) (quotient : product = digits * 2 ^ power * side) :
    |digits| ≤ 2 ^ 24 := by
  obtain ⟨part, own, partOdd, rfl⟩ := odd_digits_of_on_grid sideGrid positive
  have whole : product = ((digits * part : ℤ) : ℚ) * 2 ^ (power + own) := by
    rw [quotient, zpow_add₀ (by norm_num : (2 : ℚ) ≠ 0)]
    push_cast
    ring
  rw [whole] at grid
  have bound := odd_digits_le (odd.mul partOdd) grid
  rw [abs_mul] at bound
  have one : 1 ≤ |part| := Int.one_le_abs (by rintro rfl; simp at partOdd)
  nlinarith [abs_nonneg digits]

/-- No quotient of grid numbers lies in the middle between two of them, unless it underflows. -/
theorem quotient_error_lt (grid : OnGrid product) (sideGrid : OnGrid side) (positive : 0 < side)
    (nonzero : product ≠ 0) (normal : -149 < scale (product / side)) :
    |rounded (product / side) - product / side| < spacing (product / side) / 2 := by
  have some : product / side ≠ 0 := div_ne_zero nonzero positive.ne'
  have full := spacing_le_abs some normal
  have unit := spacing_positive (product / side)
  refine lt_of_le_of_ne (rounded_error _) fun middle => ?_
  obtain ⟨digits, odd, half⟩ : ∃ digits : ℤ, Odd digits ∧
      product / side = digits * (spacing (product / side) / 2) := by
    set count := roundEven (product / side / spacing (product / side))
    have value : rounded (product / side) = count * spacing (product / side) := rfl
    rcases abs_choice (rounded (product / side) - product / side) with above | below
    · refine ⟨2 * count - 1, ⟨count - 1, by ring⟩, ?_⟩
      push_cast
      linarith
    · refine ⟨2 * count + 1, ⟨count, rfl⟩, ?_⟩
      push_cast
      linarith
  have finer : spacing (product / side) / 2 = 2 ^ (scale (product / side) - 1) := by
    rw [spacing, zpow_sub_one₀ (by norm_num : (2 : ℚ) ≠ 0), div_eq_mul_inv]
  have bound : |digits| ≤ 2 ^ 24 := by
    apply quotient_digits_le grid sideGrid positive odd
    rw [← finer, ← half, div_mul_cancel₀ _ positive.ne']
  have short : |digits| ≤ 2 ^ 24 - 1 := by
    obtain ⟨part, rfl⟩ := odd
    rcases abs_choice (2 * part + 1) with same | same <;> rw [same] at bound ⊢ <;> omega
  have shortCast : |(digits : ℚ)| ≤ 2 ^ 24 - 1 := by exact_mod_cast short
  rw [half, abs_mul, abs_of_pos (half_pos unit), ← half] at full
  nlinarith

end Middle

/-! ## One step of the count -/

theorem unit_le_sub {left right : ℚ} {power : ℤ} (leftUnits : ∃ whole : ℤ, left = whole * 2 ^ power)
    (rightUnits : ∃ whole : ℤ, right = whole * 2 ^ power) (ordered : left < right) :
    (2 : ℚ) ^ power ≤ right - left := by
  obtain ⟨first, rfl⟩ := leftUnits
  obtain ⟨second, rfl⟩ := rightUnits
  have unit : (0 : ℚ) < 2 ^ power := by positivity
  have below : first < second := by exact_mod_cast lt_of_mul_lt_mul_right ordered unit.le
  have one : (first : ℚ) + 1 ≤ second := by exact_mod_cast Int.add_one_le_of_lt below
  rw [← sub_mul]
  exact le_mul_of_one_le_left unit.le (by linarith)

theorem log_bounds {count : ℕ} (some : 1 ≤ count) :
    (2 : ℚ) ^ (Nat.log 2 count : ℤ) ≤ count ∧
      (count : ℚ) + 1 ≤ 2 * 2 ^ (Nat.log 2 count : ℤ) := by
  have low := Nat.pow_log_le_self 2 (show count ≠ 0 by omega)
  have high := Nat.lt_pow_succ_log_self (b := 2) (by norm_num) count
  rw [zpow_natCast]
  rw [pow_succ] at high
  constructor
  · exact_mod_cast low
  · have : count + 1 ≤ 2 * 2 ^ Nat.log 2 count := by omega
    exact_mod_cast this

theorem log_le {count : ℕ} (few : count < 2 ^ 24) : Nat.log 2 count ≤ 23 := by
  rcases Nat.eq_zero_or_pos count with rfl | some
  · simp
  · exact Nat.lt_succ_iff.mp (Nat.log_lt_of_lt_pow (by omega) few)

theorem unit_of_log (count : ℕ) :
    (2 : ℚ) ^ (Nat.log 2 count : ℤ) = 2 ^ 23 * 2 ^ ((Nat.log 2 count : ℤ) - 23) := by
  rw [← zpow_natCast, ← zpow_add₀ (by norm_num : (2 : ℚ) ≠ 0)]
  congr 1
  push_cast
  ring

theorem count_units {count : ℕ} (few : count < 2 ^ 24) (more : ℕ) :
    ∃ whole : ℤ, (more : ℚ) = whole * 2 ^ ((Nat.log 2 count : ℤ) - 23) := by
  have logLe := log_le few
  obtain ⟨whole, same⟩ := finer_units (more : ℤ) (show (Nat.log 2 count : ℤ) - 23 ≤ 0 by omega)
  exact ⟨whole, by rw [← same, zpow_zero, mul_one, Int.cast_natCast]⟩

theorem units_beyond_power {number : ℚ} (count : ℕ) (grid : OnGrid number)
    (beyond : (2 : ℚ) ^ (Nat.log 2 count : ℤ) < number) :
    ∃ whole : ℤ, number = whole * 2 ^ ((Nat.log 2 count : ℤ) - 23) := by
  rcases on_grid_cases grid ((Nat.log 2 count : ℤ) - 23) with multiple | small
  · exact multiple
  · rw [← unit_of_log] at small
    exact absurd ((le_abs_self number).trans small) (not_le.mpr beyond)

section Close

variable {exact : ℚ} {count : ℕ}

theorem le_rounded_of_close (few : count < 2 ^ 24)
    (more : (2 : ℚ) ^ (Nat.log 2 count : ℤ) < count) (below : exact < count)
    (close : count - exact < 2 ^ ((Nat.log 2 count : ℤ) - 23) / 2) : count ≤ rounded exact := by
  by_contra short
  rw [not_le] at short
  have nearest := rounded_nearest exact (count_on_grid few.le)
  rw [abs_of_pos (sub_pos.mpr below)] at nearest
  have low := (abs_le.mp nearest).1
  have oneMore : (2 : ℚ) ^ (Nat.log 2 count : ℤ) + 1 ≤ count := by
    rw [zpow_natCast] at more ⊢
    have moreNat : 2 ^ Nat.log 2 count < count := by exact_mod_cast more
    exact_mod_cast moreNat
  have unitSmall : (2 : ℚ) ^ ((Nat.log 2 count : ℤ) - 23) ≤ 1 :=
    zpow_le_one_of_nonpos₀ (by norm_num) (by linarith [log_le few])
  have units := units_beyond_power count (rounded_on_grid exact) (by linarith)
  have gap := unit_le_sub units (count_units few count) short
  linarith

theorem rounded_le_of_close (some : 1 ≤ count) (few : count + 1 ≤ 2 ^ 24)
    (above : count + 1 < exact)
    (close : exact - (count + 1) < 2 ^ ((Nat.log 2 count : ℤ) - 23) / 2) :
    rounded exact ≤ count + 1 := by
  have grid := count_on_grid few
  have nextUnits := count_units (show count < 2 ^ 24 by omega) (count + 1)
  rw [Nat.cast_add_one] at grid nextUnits
  by_contra far
  rw [not_le] at far
  have nearest := rounded_nearest exact grid
  rw [abs_sub_comm (count + 1 : ℚ), abs_of_pos (sub_pos.mpr above)] at nearest
  have high := (abs_le.mp nearest).2
  have units := units_beyond_power count (rounded_on_grid exact)
    (by linarith [(log_bounds some).1])
  have gap := unit_le_sub nextUnits units far
  linarith

end Close

section Between

variable {product side : ℚ} {count : ℕ}

theorem between_error_lt (grid : OnGrid product) (sideGrid : OnGrid side) (positive : 0 < side)
    (some : 1 ≤ count) (above : count < product / side) (below : product / side < count + 1) :
    |rounded (product / side) - product / side| < 2 ^ ((Nat.log 2 count : ℤ) - 23) / 2 := by
  obtain ⟨low, high⟩ := log_bounds some
  have quotientPositive : 0 < product / side := by
    have : (0 : ℚ) ≤ count := Nat.cast_nonneg count
    linarith
  have log : Int.log 2 |product / side| = Nat.log 2 count := by
    rw [abs_of_pos quotientPositive]
    apply le_antisymm
    · apply Int.lt_add_one_iff.mp
      rw [← Int.lt_zpow_iff_log_lt (by norm_num) quotientPositive, zpow_add_one₀ (by norm_num)]
      push_cast
      linarith
    · rw [← Int.zpow_le_iff_le_log (by norm_num) quotientPositive]
      push_cast
      linarith
  have unit : scale (product / side) = (Nat.log 2 count : ℤ) - 23 := by
    rw [scale, log]
    omega
  have error := quotient_error_lt grid sideGrid positive
    (fun none => by rw [none, zero_div] at quotientPositive; exact lt_irrefl _ quotientPositive)
    (by rw [unit]; omega)
  rwa [spacing, unit] at error

end Between

theorem power_gap {product side : ℚ} (grid : OnGrid product) (sideGrid : OnGrid side)
    (positive : 0 < side) (power : ℕ) (below : product / side < 2 ^ power) :
    (2 : ℚ) ^ power ≤ 2 ^ 24 * (2 ^ power - product / side) := by
  have ownGrid : OnGrid (2 ^ power * side) := by
    obtain ⟨digits, own, few, floor, rfl⟩ := sideGrid
    refine ⟨digits, power + own, few, by omega, ?_⟩
    rw [zpow_add₀ (by norm_num : (2 : ℚ) ≠ 0), zpow_natCast]
    ring
  rw [div_lt_iff₀ positive] at below
  have gap := abs_le_of_apart ownGrid grid below.ne'
  rw [abs_of_pos (by positivity), abs_of_pos (sub_pos.mpr below)] at gap
  have scaled : 2 ^ 24 * (2 ^ power - product / side) * side =
      2 ^ 24 * (2 ^ power * side - product) := by
    field_simp
  rw [← scaled] at gap
  exact le_of_mul_le_mul_right gap positive

section Steps

variable {low high side : ℚ} {count : ℕ}

theorem quotient_le_succ (positive : 0 < side) (near : high ≤ low + side) :
    high / side ≤ low / side + 1 := by
  rw [div_add_one positive.ne']
  exact div_le_div_of_nonneg_right near positive.le

theorem rounded_lt_one (highGrid : OnGrid high) (sideGrid : OnGrid side) (positive : 0 < side)
    (below : high / side < 1) : rounded (high / side) < 1 := by
  have gap := power_gap highGrid sideGrid positive 0 (by rwa [pow_zero])
  have own : OnGrid (1 - 1 / 2 ^ 24) := ⟨2 ^ 24 - 1, -24, by norm_num, by norm_num, by norm_num⟩
  have kept := rounded_mono (show high / side ≤ 1 - 1 / 2 ^ 24 by linarith)
  rw [rounded_of_on_grid own] at kept
  exact kept.trans_lt (by norm_num)

theorem rounded_lt_succ (lowGrid : OnGrid low) (highGrid : OnGrid high) (sideGrid : OnGrid side)
    (positive : 0 < side) (near : high ≤ low + side) (few : count < 2 ^ 24)
    (below : rounded (low / side) < count) : rounded (high / side) < count + 1 := by
  have grid := count_on_grid few.le
  have step := quotient_le_succ positive near
  have lowBelow := lt_of_rounded_lt grid below
  rcases Nat.eq_zero_or_pos count with rfl | some
  · rw [Nat.cast_zero] at lowBelow ⊢
    rw [zero_add]
    exact rounded_lt_one highGrid sideGrid positive (by linarith)
  · by_contra reached
    rw [not_lt] at reached
    have beyond : (count : ℚ) < high / side := lt_of_lt_rounded grid (by linarith)
    have error := (abs_lt.mp
      (between_error_lt highGrid sideGrid positive some beyond (by linarith))).2
    rcases (log_bounds some).1.lt_or_eq with more | same
    · have kept := le_rounded_of_close few more lowBelow (by linarith)
      linarith
    · -- Half of the unit is a digit of the power, and the low number keeps one away.
      have unitIs := unit_of_log count
      rw [same] at unitIs
      rw [zpow_natCast] at same
      have gap := power_gap lowGrid sideGrid positive (Nat.log 2 count) (by rwa [same])
      rw [same] at gap
      linarith

theorem tiny_of_rounded_nonpos {exact : ℚ} (nonpos : rounded exact ≤ 0) :
    exact < 2 ^ (-149 : ℤ) :=
  lt_of_rounded_lt (on_grid_two_pow le_rfl) (nonpos.trans_lt (by positivity))

theorem lt_rounded_of_succ (lowGrid : OnGrid low) (sideGrid : OnGrid side) (positive : 0 < side)
    (near : high ≤ low + side) (few : count + 1 ≤ 2 ^ 24)
    (above : count + 1 < rounded (high / side)) : count < rounded (low / side) := by
  have nextGrid := count_on_grid few
  rw [Nat.cast_add_one] at nextGrid
  have step := quotient_le_succ positive near
  have highAbove := lt_of_lt_rounded nextGrid above
  by_contra reached
  rw [not_lt] at reached
  rcases Nat.eq_zero_or_pos count with rfl | some
  · rw [Nat.cast_zero] at reached
    rw [Nat.cast_zero, zero_add] at above highAbove
    have tiny := tiny_of_rounded_nonpos reached
    have nearest := rounded_nearest (high / side) on_grid_one
    rw [abs_sub_comm (1 : ℚ), abs_of_pos (sub_pos.mpr highAbove)] at nearest
    have error := (abs_le.mp nearest).2
    have gap := abs_le_of_apart (rounded_on_grid (high / side)) on_grid_one above.ne'
    rw [abs_of_pos (by linarith), abs_of_pos (sub_pos.mpr above)] at gap
    norm_num at tiny
    linarith
  · have before : low / side < count + 1 := lt_of_rounded_lt nextGrid (by linarith)
    have error := (abs_lt.mp
      (between_error_lt lowGrid sideGrid positive some (by linarith) before)).1
    have kept := rounded_le_of_close some few highAbove (by linarith)
    linarith

end Steps

section Floors

variable {low high first second side : ℚ}

theorem rounded_quotient_le (lowGrid : OnGrid low) (highGrid : OnGrid high) (positive : 0 < side)
    (apart : low ≠ high) (near : |low - high| ≤ side) : |rounded (low / side)| ≤ 2 ^ 24 := by
  have size : |low / side| ≤ 2 ^ 24 := by
    rw [abs_div, abs_of_pos positive, div_le_iff₀ positive]
    linarith [abs_le_of_apart lowGrid highGrid apart]
  exact abs_rounded_le (by exact_mod_cast on_grid_two_pow (by norm_num : (-149 : ℤ) ≤ 24)) size

theorem floor_quotient_le (lowGrid : OnGrid low) (highGrid : OnGrid high) (sideGrid : OnGrid side)
    (positive : 0 < side) (near : |low - high| ≤ side) :
    ⌊rounded (high / side)⌋ ≤ ⌊rounded (low / side)⌋ + 1 := by
  rcases eq_or_ne low high with rfl | apart
  · omega
  have lowSize := (abs_le.mp (rounded_quotient_le lowGrid highGrid positive apart near)).1
  rw [abs_sub_comm] at near
  have highSize := (abs_le.mp (rounded_quotient_le highGrid lowGrid positive apart.symm near)).2
  have reach : high ≤ low + side := by linarith [(abs_le.mp near).2]
  set start := ⌊rounded (low / side)⌋ with startIs
  have below : rounded (low / side) < start + 1 := Int.lt_floor_add_one _
  by_contra far
  have beyond : (start : ℚ) + 1 + 1 ≤ rounded (high / side) := by
    have far := Int.le_floor.mp (show start + 1 + 1 ≤ ⌊rounded (high / side)⌋ by omega)
    exact_mod_cast far
  rcases le_or_gt 0 (start + 1) with nonneg | negative
  · -- Counted upward from zero.
    obtain ⟨count, counted⟩ := Int.eq_ofNat_of_zero_le nonneg
    have cast : (start : ℚ) + 1 = count := by exact_mod_cast counted
    rw [cast] at below beyond
    have few : count < 2 ^ 24 := by
      have : (count : ℚ) + 1 ≤ 2 ^ 24 := by linarith
      have : count + 1 ≤ 2 ^ 24 := by exact_mod_cast this
      omega
    exact absurd beyond
      (not_le.mpr (rounded_lt_succ lowGrid highGrid sideGrid positive reach few below))
  · -- Counted downward from zero, which turns the line around.
    obtain ⟨count, counted⟩ := Int.eq_ofNat_of_zero_le (show 0 ≤ -(start + 1) - 1 by omega)
    have cast : (start : ℚ) + 1 = -(count + 1) := by
      have : start + 1 = -(count + 1) := by omega
      exact_mod_cast this
    rw [cast] at below beyond
    have few : count + 1 ≤ 2 ^ 24 := by
      have : (count : ℚ) + 1 ≤ 2 ^ 24 := by linarith
      exact_mod_cast this
    have kept := lt_rounded_of_succ (on_grid_neg highGrid) sideGrid positive
      (show -low ≤ -high + side by linarith) few (by rw [neg_div, rounded_neg]; linarith)
    rw [neg_div, rounded_neg] at kept
    linarith

/-- Numbers of the grid that are a side apart at most are counted to one place or to neighbours. -/
theorem floor_quotient_near (firstGrid : OnGrid first) (secondGrid : OnGrid second)
    (sideGrid : OnGrid side) (positive : 0 < side) (near : |first - second| ≤ side) :
    |⌊rounded (first / side)⌋ - ⌊rounded (second / side)⌋| ≤ 1 := by
  have forth := floor_quotient_le firstGrid secondGrid sideGrid positive near
  rw [abs_sub_comm] at near
  have back := floor_quotient_le secondGrid firstGrid sideGrid positive near
  rw [abs_le]
  omega

end Floors

end EvidenceGrid.Binary32

import EvidenceGrid.Proofs.Binary32.Rounding

/-!
How far rounding to the binary32 grid moves a number. Sums, differences and whole
multiples of grid numbers are multiples of the least grid number, so underflow
costs them nothing and their error is relative to their size; a quotient has the
least number as an error besides. A sum that does not absorb its second term
moves by half of that term at least.
-/

set_option autoImplicit false

namespace EvidenceGrid.Binary32

/-- A multiple of the least positive grid number. -/
def Multiple (exact : ℚ) : Prop := ∃ whole : ℤ, exact = whole * 2 ^ (-149 : ℤ)

section Multiple

variable {left right : ℚ}

theorem multiple_of_on_grid (grid : OnGrid left) : Multiple left := by
  obtain ⟨digits, power, -, floor, rfl⟩ := grid
  exact finer_units digits floor

theorem multiple_add (leftMultiple : Multiple left) (rightMultiple : Multiple right) :
    Multiple (left + right) := by
  obtain ⟨first, rfl⟩ := leftMultiple
  obtain ⟨second, rfl⟩ := rightMultiple
  exact ⟨first + second, by push_cast; ring⟩

theorem multiple_sub (leftMultiple : Multiple left) (rightMultiple : Multiple right) :
    Multiple (left - right) := by
  obtain ⟨first, rfl⟩ := leftMultiple
  obtain ⟨second, rfl⟩ := rightMultiple
  exact ⟨first - second, by push_cast; ring⟩

theorem multiple_int_mul (count : ℤ) (multiple : Multiple left) : Multiple (count * left) := by
  obtain ⟨whole, rfl⟩ := multiple
  exact ⟨count * whole, by push_cast; ring⟩

theorem multiple_abs (multiple : Multiple left) : Multiple |left| := by
  obtain ⟨whole, rfl⟩ := multiple
  refine ⟨|whole|, ?_⟩
  rw [abs_mul, Int.cast_abs, abs_of_pos (by positivity : (0 : ℚ) < 2 ^ (-149 : ℤ))]

theorem least_le_abs (multiple : Multiple left) (nonzero : left ≠ 0) :
    (2 : ℚ) ^ (-149 : ℤ) ≤ |left| := by
  obtain ⟨whole, rfl⟩ := multiple
  have wholeNonzero : whole ≠ 0 := by
    rintro rfl
    exact nonzero (by simp)
  have size : (1 : ℚ) ≤ |(whole : ℚ)| := by exact_mod_cast Int.one_le_abs wholeNonzero
  rw [abs_mul, abs_of_pos (by positivity : (0 : ℚ) < 2 ^ (-149 : ℤ))]
  exact le_mul_of_one_le_left (by positivity) size

theorem on_grid_of_small_multiple (multiple : Multiple left) (small : |left| ≤ 2 ^ (-125 : ℤ)) :
    OnGrid left := by
  obtain ⟨whole, rfl⟩ := multiple
  refine ⟨whole, -149, ?_, le_rfl, rfl⟩
  rw [abs_mul, abs_of_pos (by positivity : (0 : ℚ) < 2 ^ (-149 : ℤ))] at small
  have size : |(whole : ℚ)| ≤ 2 ^ 24 := by
    norm_num at small ⊢
    linarith
  exact_mod_cast size

end Multiple

section Relative

variable {exact : ℚ}

theorem rounded_abs (exact : ℚ) : |rounded exact| = rounded |exact| := by
  rcases le_total 0 exact with nonneg | nonpos
  · have := rounded_mono nonneg
    rw [rounded_zero] at this
    rw [abs_of_nonneg nonneg, abs_of_nonneg this]
  · have := rounded_mono nonpos
    rw [rounded_zero] at this
    rw [abs_of_nonpos nonpos, abs_of_nonpos this, rounded_neg]

theorem abs_rounded_le {bound : ℚ} (grid : OnGrid bound) (within : |exact| ≤ bound) :
    |rounded exact| ≤ bound := by
  have kept := rounded_mono within
  rwa [rounded_of_on_grid grid, ← rounded_abs] at kept

theorem abs_lt_of_rounded {bound : ℚ} (grid : OnGrid bound) (below : |rounded exact| < bound) :
    |exact| < bound := by
  by_contra beyond
  have kept := rounded_mono (not_lt.mp beyond)
  rw [rounded_of_on_grid grid, ← rounded_abs] at kept
  exact absurd below (not_lt.mpr kept)

theorem lt_of_rounded_lt {bound : ℚ} (grid : OnGrid bound) (below : rounded exact < bound) :
    exact < bound := by
  by_contra reached
  have kept := rounded_mono (not_lt.mp reached)
  rw [rounded_of_on_grid grid] at kept
  exact absurd below (not_lt.mpr kept)

theorem lt_of_lt_rounded {bound : ℚ} (grid : OnGrid bound) (above : bound < rounded exact) :
    bound < exact := by
  by_contra reached
  have kept := rounded_mono (not_lt.mp reached)
  rw [rounded_of_on_grid grid] at kept
  exact absurd above (not_lt.mpr kept)

theorem rounded_error_le (exact : ℚ) :
    |rounded exact - exact| ≤ |exact| / 2 ^ 24 + 2 ^ (-150 : ℤ) := by
  by_cases zero : exact = 0
  · rw [zero, rounded_zero]
    norm_num
  · have error := rounded_error exact
    have sizeNonneg := abs_nonneg exact
    rcases spacing_bound zero with normal | least
    · have : (0 : ℚ) ≤ 2 ^ (-150 : ℤ) := by positivity
      linarith
    · rw [least] at error
      have half : (2 : ℚ) ^ (-149 : ℤ) / 2 = 2 ^ (-150 : ℤ) := by norm_num
      have : 0 ≤ |exact| / 2 ^ 24 := by positivity
      linarith

theorem rounded_relative (multiple : Multiple exact) :
    |rounded exact - exact| ≤ |exact| / 2 ^ 24 := by
  by_cases zero : exact = 0
  · rw [zero, rounded_zero]
    norm_num
  · rcases spacing_bound zero with normal | least
    · have error := rounded_error exact
      linarith
    · obtain ⟨whole, same⟩ := multiple
      have nearest := rounded_nearest_multiple exact whole
      rw [least, ← same, sub_self, abs_zero] at nearest
      exact nearest.trans (by positivity)

end Relative

theorem halving_error {exact : ℚ} (grid : OnGrid exact) :
    |rounded (exact / 2) - exact / 2| ≤ 2 ^ (-150 : ℤ) := by
  obtain ⟨digits, power, few, floor, rfl⟩ := grid
  have halved : (digits : ℚ) * 2 ^ power / 2 = digits * 2 ^ (power - 1) := by
    rw [zpow_sub_one₀ (by norm_num : (2 : ℚ) ≠ 0)]
    ring
  rcases floor.lt_or_eq with fine | least
  · have own : OnGrid (digits * 2 ^ power / 2) := ⟨digits, power - 1, few, by omega, halved⟩
    rw [rounded_of_on_grid own, sub_self, abs_zero]
    positivity
  · rw [halved, ← least]
    set number : ℚ := digits * 2 ^ (-149 - 1 : ℤ)
    have digitsBound : |(digits : ℚ)| ≤ 2 ^ 24 := by exact_mod_cast few
    have small : |number| / 2 ^ 23 ≤ 2 ^ (-149 : ℤ) := by
      rw [abs_mul, abs_of_pos (by positivity : (0 : ℚ) < 2 ^ (-149 - 1 : ℤ))]
      norm_num
      linarith
    by_cases zero : number = 0
    · rw [zero, rounded_zero, sub_self, abs_zero]
      positivity
    · have fine : spacing number ≤ 2 ^ (-149 : ℤ) := by
        rcases spacing_bound zero with normal | tiny
        · exact normal.trans small
        · exact tiny.le
      calc |rounded number - number| ≤ spacing number / 2 := rounded_error number
        _ ≤ 2 ^ (-149 : ℤ) / 2 := div_le_div_of_nonneg_right fine (by norm_num)
        _ = 2 ^ (-150 : ℤ) := by norm_num

theorem rounded_count_error (count : ℕ) : |rounded count - count| ≤ count / 2 ^ 24 := by
  have whole := multiple_int_mul count (multiple_of_on_grid on_grid_one)
  rw [mul_one, Int.cast_natCast] at whole
  have error := rounded_relative whole
  rwa [abs_of_nonneg (Nat.cast_nonneg count : (0 : ℚ) ≤ count)] at error

/-- A sum that is not absorbed moves by half of the added term at least. -/
theorem half_le_of_not_absorbed {base step : ℚ} (grid : OnGrid base) (multiple : Multiple step)
    (moved : rounded (base + step) ≠ base) : |step| / 2 ≤ |rounded (base + step) - base| := by
  by_cases nothing : step = 0
  · rw [nothing, abs_zero, zero_div]
    exact abs_nonneg _
  by_cases zero : base + step = 0
  · rw [zero, rounded_zero, zero_sub, abs_neg, eq_neg_of_add_eq_zero_left zero, abs_neg]
    linarith [abs_nonneg step]
  have error := rounded_error (base + step)
  have triangle : |step| ≤
      |rounded (base + step) - base| + |rounded (base + step) - (base + step)| := by
    have := abs_sub (rounded (base + step) - base) (rounded (base + step) - (base + step))
    rwa [sub_sub_sub_cancel_left, add_sub_cancel_left] at this
  rcases le_or_gt (spacing (base + step)) |step| with fine | coarse
  · linarith
  · -- The spacing is wider than the step, so base and result are multiples of half of it.
    have normal : -149 < scale (base + step) := by
      refine lt_of_le_of_ne (scale_floor _) fun least => ?_
      have := least_le_abs multiple nothing
      rw [spacing, ← least] at coarse
      linarith
    have large := spacing_le_abs zero normal
    have positive := spacing_positive (base + step)
    have half : (2 : ℚ) ^ (scale (base + step) - 1) = spacing (base + step) / 2 := by
      rw [zpow_sub_one₀ (by norm_num : (2 : ℚ) ≠ 0), spacing, div_eq_mul_inv]
    obtain ⟨whole, same⟩ : ∃ whole : ℤ, base = whole * (spacing (base + step) / 2) := by
      rcases on_grid_cases grid (scale (base + step) - 1) with ⟨whole, same⟩ | small
      · exact ⟨whole, by rw [← half, ← same]⟩
      · rw [half] at small
        have := abs_add_le base step
        linarith
    have difference : rounded (base + step) - base =
        (2 * roundEven ((base + step) / spacing (base + step)) - whole : ℤ) *
          (spacing (base + step) / 2) := by
      have value : rounded (base + step) =
          roundEven ((base + step) / spacing (base + step)) * spacing (base + step) := rfl
      rw [value]
      push_cast
      linarith
    have distinct : 2 * roundEven ((base + step) / spacing (base + step)) - whole ≠ 0 := by
      intro none
      rw [none, Int.cast_zero, zero_mul] at difference
      exact moved (sub_eq_zero.mp difference)
    have count : (1 : ℚ) ≤
        |((2 * roundEven ((base + step) / spacing (base + step)) - whole : ℤ) : ℚ)| := by
      exact_mod_cast Int.one_le_abs distinct
    rw [difference, abs_mul, abs_of_pos (half_pos positive)]
    nlinarith

theorem abs_le_of_units_apart {digits other power : ℤ} (few : |digits| ≤ 2 ^ 24)
    (apart : (digits : ℚ) * 2 ^ power ≠ other * 2 ^ power) :
    |(digits : ℚ) * 2 ^ power| ≤ 2 ^ 24 * |(digits : ℚ) * 2 ^ power - other * 2 ^ power| := by
  have unit : (0 : ℚ) < 2 ^ power := by positivity
  have one : (1 : ℚ) ≤ |(digits : ℚ) - other| := by
    have distinct : digits - other ≠ 0 := by
      intro none
      exact apart (by rw [sub_eq_zero.mp none])
    exact_mod_cast Int.one_le_abs distinct
  have fewCast : |(digits : ℚ)| ≤ 2 ^ 24 := by exact_mod_cast few
  rw [← sub_mul, abs_mul, abs_mul, abs_of_pos unit, ← mul_assoc]
  apply mul_le_mul_of_nonneg_right _ unit.le
  linarith

theorem digits_of_finer {digits other power own : ℤ} (finer : power ≤ own)
    (same : (digits : ℚ) * 2 ^ own = other * 2 ^ power) :
    other = digits * 2 ^ (own - power).toNat := by
  have split : (2 : ℚ) ^ own = 2 ^ (own - power).toNat * 2 ^ power := by
    rw [← zpow_natCast, Int.toNat_of_nonneg (by omega), ← zpow_add₀ (by norm_num : (2 : ℚ) ≠ 0),
      sub_add_cancel]
  rw [split, ← mul_assoc] at same
  exact_mod_cast (mul_right_cancel₀ (by positivity : (2 : ℚ) ^ power ≠ 0) same).symm

theorem odd_digits_le {digits power : ℤ} (odd : Odd digits) (grid : OnGrid (digits * 2 ^ power)) :
    |digits| ≤ 2 ^ 24 := by
  obtain ⟨few, own, bound, -, same⟩ := grid
  rcases le_or_gt own power with coarse | fine
  · rw [digits_of_finer coarse same, abs_mul, abs_pow] at bound
    have one : (1 : ℤ) ≤ |2| ^ (power - own).toNat := one_le_pow₀ (by norm_num)
    exact (le_mul_of_one_le_right (abs_nonneg digits) one).trans bound
  · rw [digits_of_finer fine.le same.symm] at odd
    have even := (even_two.pow_of_ne_zero (by omega : (own - power).toNat ≠ 0)).mul_left few
    exact absurd odd (Int.not_odd_iff_even.mpr even)

theorem two_le_apart {digits count power : ℤ} (grid : OnGrid (count * 2 ^ power))
    (many : 2 ^ 24 < |2 * digits|) (apart : 2 * digits ≠ count) : 2 ≤ |2 * digits - count| := by
  have even (number : ℤ) : |2 * number| = 2 * |number| := abs_mul 2 number
  have one := Int.one_le_abs (sub_ne_zero.mpr apart)
  rcases Int.even_or_odd count with ⟨half, rfl⟩ | odd
  · rw [← two_mul, ← mul_sub, even] at one ⊢
    omega
  · have few := odd_digits_le odd grid
    have triangle := abs_sub_abs_le_abs_sub (2 * digits) count
    rw [even] at many triangle
    omega

/-- Two numbers of the grid are a digit of either one apart at least, also across a power of two,
where the digits on one side are half as large. -/
theorem abs_le_of_apart {base other : ℚ} (grid : OnGrid base) (otherGrid : OnGrid other)
    (apart : base ≠ other) : |base| ≤ 2 ^ 24 * |base - other| := by
  obtain ⟨digits, few, same⟩ : ∃ digits : ℤ, |digits| ≤ 2 ^ 24 ∧ base = digits * 2 ^ scale base :=
    ⟨roundEven (base / spacing base), digits_le base, (rounded_of_on_grid grid).symm⟩
  by_cases zero : base = 0
  · rw [zero, abs_zero]
    positivity
  rcases (scale_floor base).lt_or_eq with normal | least
  · set power := scale base - 1 with powerIs
    have unit : (0 : ℚ) < 2 ^ power := by positivity
    have double : (2 : ℚ) ^ scale base = 2 * 2 ^ power := by
      rw [powerIs, zpow_sub_one₀ (by norm_num : (2 : ℚ) ≠ 0)]
      ring
    rcases on_grid_cases otherGrid power with ⟨count, rfl⟩ | small
    · have baseIs : base = (2 * digits : ℤ) * 2 ^ power := by
        rw [same, double]
        push_cast
        ring
      rcases le_or_gt |2 * digits| (2 ^ 24) with enough | many
      · rw [baseIs] at apart ⊢
        exact abs_le_of_units_apart enough apart
      · have two := two_le_apart otherGrid many fun equal => apart (by rw [baseIs, equal])
        have twoCast : (2 : ℚ) ≤ |((2 * digits - count : ℤ) : ℚ)| := by exact_mod_cast two
        have fewCast : |(digits : ℚ)| ≤ 2 ^ 24 := by exact_mod_cast few
        rw [baseIs, ← sub_mul, ← Int.cast_sub, abs_mul, abs_mul, abs_of_pos unit, Int.cast_mul,
          abs_mul, Int.cast_ofNat, abs_two]
        nlinarith
    · have large := spacing_le_abs zero normal
      rw [spacing, double] at large
      have far := abs_sub_abs_le_abs_sub base other
      linarith
  · obtain ⟨count, multiple⟩ := multiple_of_on_grid otherGrid
    rw [← least] at same
    rw [same, multiple] at apart ⊢
    exact abs_le_of_units_apart few apart

theorem half_le_rounded {bound exact : ℚ} (grid : OnGrid bound) (multiple : Multiple exact)
    (above : bound / 2 ≤ exact) (positive : 0 < bound) : bound / 2 ≤ rounded exact := by
  rcases le_or_gt exact (2 ^ (-125 : ℤ)) with small | large
  · have own := on_grid_of_small_multiple multiple (by rwa [abs_of_nonneg (by linarith)])
    rwa [rounded_of_on_grid own]
  · have reach := rounded_mono large.le
    have power : OnGrid (2 ^ (-125 : ℤ)) := ⟨1, -125, by norm_num, by norm_num, by simp⟩
    rw [rounded_of_on_grid power] at reach
    rcases le_or_gt bound (2 ^ (-125 : ℤ)) with tiny | normal
    · linarith
    · obtain ⟨digits, own, few, -, rfl⟩ := grid
      have coarse : -148 ≤ own := by
        by_contra least
        have step : (2 : ℚ) ^ own ≤ 2 ^ (-149 : ℤ) :=
          zpow_le_zpow_right₀ (by norm_num) (by omega)
        have digitsBound : (digits : ℚ) ≤ 2 ^ 24 := by exact_mod_cast (le_abs_self digits).trans few
        have unit : (0 : ℚ) < 2 ^ own := zpow_pos (by norm_num) _
        have : (digits : ℚ) * 2 ^ own ≤ 2 ^ 24 * 2 ^ (-149 : ℤ) :=
          mul_le_mul digitsBound step unit.le (by norm_num)
        norm_num at this normal
        linarith
      have halved : (digits : ℚ) * 2 ^ own / 2 = digits * 2 ^ (own - 1) := by
        rw [zpow_sub_one₀ (by norm_num : (2 : ℚ) ≠ 0)]
        ring
      have halfGrid : OnGrid (digits * 2 ^ own / 2) := ⟨digits, own - 1, few, by omega, halved⟩
      have := rounded_mono above
      rwa [rounded_of_on_grid halfGrid] at this

end EvidenceGrid.Binary32

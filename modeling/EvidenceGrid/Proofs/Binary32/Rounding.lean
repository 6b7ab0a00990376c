import Mathlib

/-!
Rounding of exact numbers to the binary32 grid: to the nearest, a half to the
even neighbour, with gradual underflow. The grid has no largest number here, so
whether a result still fits the format is left to whoever packs it. The laws are
the ones that error bounds need: the result is on the grid, no grid number is
nearer, grid numbers stay, and order is kept.
-/

set_option autoImplicit false

namespace EvidenceGrid.Binary32

/-- The integer nearest to a number; a half goes to the even neighbour. -/
def roundEven (number : ℚ) : ℤ :=
  if Int.fract number < 1 / 2 then ⌊number⌋
  else if 1 / 2 < Int.fract number then ⌊number⌋ + 1
  else ⌊number⌋ + ⌊number⌋ % 2

theorem round_even_error (number : ℚ) : |(roundEven number : ℚ) - number| ≤ 1 / 2 := by
  have split := Int.floor_add_fract number
  have fractNonneg := Int.fract_nonneg number
  have fractBelow := Int.fract_lt_one number
  have parity : ((⌊number⌋ % 2 : ℤ) : ℚ) = 0 ∨ ((⌊number⌋ % 2 : ℤ) : ℚ) = 1 := by
    rcases Int.emod_two_eq_zero_or_one ⌊number⌋ with even | odd
    · exact Or.inl (by rw [even, Int.cast_zero])
    · exact Or.inr (by rw [odd, Int.cast_one])
  unfold roundEven
  rw [abs_le]
  split_ifs with below above
  · constructor <;> linarith
  · push_cast
    constructor <;> linarith
  · push_cast at parity ⊢
    rcases parity with even | odd
    · rw [even]
      constructor <;> linarith
    · rw [odd]
      constructor <;> linarith

theorem round_even_int (whole : ℤ) : roundEven (whole : ℚ) = whole := by
  simp [roundEven]

theorem round_even_nearest (number : ℚ) (whole : ℤ) :
    |(roundEven number : ℚ) - number| ≤ |(whole : ℚ) - number| := by
  by_cases same : roundEven number = whole
  · rw [same]
  · have apart : (1 : ℚ) ≤ |(roundEven number : ℚ) - whole| := by
      have distinct : 1 ≤ |roundEven number - whole| :=
        Int.one_le_abs (sub_ne_zero.mpr same)
      exact_mod_cast distinct
    have triangle := abs_sub_le (roundEven number : ℚ) number whole
    have error := round_even_error number
    rw [abs_sub_comm number] at triangle
    linarith

theorem round_even_neg (number : ℚ) : roundEven (-number) = -roundEven number := by
  by_cases whole : Int.fract number = 0
  · obtain ⟨integer, rfl⟩ : ∃ integer : ℤ, (integer : ℚ) = number :=
      Int.fract_eq_zero_iff.mp whole
    rw [← Int.cast_neg, round_even_int, round_even_int]
  · have fractNeg := Int.fract_neg whole
    have floorNeg : ⌊-number⌋ = -⌊number⌋ - 1 := by
      have left := Int.floor_add_fract (-number)
      have right := Int.floor_add_fract number
      have cast : ((⌊-number⌋ : ℤ) : ℚ) = ((-⌊number⌋ - 1 : ℤ) : ℚ) := by
        push_cast
        linarith
      exact_mod_cast cast
    unfold roundEven
    rw [fractNeg, floorNeg]
    split_ifs <;> first | omega | linarith

/-- The exponent of the grid around a number: 24 significant bits, and no power
below `-149`. -/
def scale (number : ℚ) : ℤ := max (Int.log 2 |number| - 23) (-149)

def spacing (number : ℚ) : ℚ := 2 ^ scale number

/-- The grid number that stands for an exact one. -/
def rounded (number : ℚ) : ℚ := roundEven (number / spacing number) * spacing number

/-- The numbers of the grid. -/
def OnGrid (number : ℚ) : Prop :=
  ∃ digits power : ℤ, |digits| ≤ 2 ^ 24 ∧ -149 ≤ power ∧ number = digits * 2 ^ power

theorem on_grid_int {whole : ℤ} (few : |whole| ≤ 2 ^ 24) : OnGrid whole :=
  ⟨whole, 0, few, by norm_num, by simp⟩

theorem count_on_grid {count : ℕ} (few : count ≤ 2 ^ 24) : OnGrid (count : ℚ) := by
  have grid : OnGrid ((count : ℤ) : ℚ) := on_grid_int (by rw [abs_of_nonneg] <;> omega)
  rwa [Int.cast_natCast] at grid

theorem on_grid_two_pow {power : ℤ} (floor : -149 ≤ power) : OnGrid (2 ^ power) :=
  ⟨1, power, by norm_num, floor, by simp⟩

theorem on_grid_zero : OnGrid 0 := ⟨0, 0, by norm_num, by norm_num, by norm_num⟩

theorem on_grid_one : OnGrid 1 := ⟨1, 0, by norm_num, by norm_num, by norm_num⟩

theorem on_grid_half : OnGrid (1 / 2) := ⟨1, -1, by norm_num, by norm_num, by norm_num⟩

theorem spacing_positive (number : ℚ) : 0 < spacing number := zpow_pos (by norm_num) _

theorem scale_neg (number : ℚ) : scale (-number) = scale number := by
  rw [scale, scale, abs_neg]

theorem scale_floor (number : ℚ) : -149 ≤ scale number := le_max_right _ _

theorem abs_lt_spacing (number : ℚ) : |number| < 2 ^ 24 * spacing number := by
  have above := Int.lt_zpow_succ_log_self (b := 2) (by norm_num) |number|
  have wide : (2 : ℚ) ^ (Int.log 2 |number| + 1) ≤ 2 ^ 24 * spacing number := by
    rw [spacing, ← zpow_natCast, ← zpow_add₀ (by norm_num : (2 : ℚ) ≠ 0)]
    apply zpow_le_zpow_right₀ (by norm_num)
    have := le_max_left (Int.log 2 |number| - 23) (-149)
    rw [scale]
    push_cast
    omega
  exact lt_of_lt_of_le (by exact_mod_cast above) wide

theorem spacing_le_abs {number : ℚ} (nonzero : number ≠ 0) (normal : -149 < scale number) :
    2 ^ 23 * spacing number ≤ |number| := by
  have exponent : scale number = Int.log 2 |number| - 23 := by
    rw [scale] at normal ⊢
    omega
  have below := Int.zpow_log_le_self (b := 2) (by norm_num) (abs_pos.mpr nonzero)
  calc 2 ^ 23 * spacing number
      = (2 : ℚ) ^ Int.log 2 |number| := by
        rw [spacing, exponent, ← zpow_natCast, ← zpow_add₀ (by norm_num : (2 : ℚ) ≠ 0)]
        congr 1
        push_cast
        omega
    _ ≤ |number| := by exact_mod_cast below

/-- Half of the spacing is a relative error of `2 ^ -24`, save in the underflow range. -/
theorem spacing_bound {number : ℚ} (nonzero : number ≠ 0) :
    spacing number ≤ |number| / 2 ^ 23 ∨ spacing number = 2 ^ (-149 : ℤ) := by
  rcases (scale_floor number).lt_or_eq with normal | least
  · left
    rw [le_div_iff₀ (by norm_num)]
    linarith [spacing_le_abs nonzero normal]
  · right
    rw [spacing, ← least]

theorem rounded_neg (number : ℚ) : rounded (-number) = -rounded number := by
  rw [rounded, rounded, spacing, scale_neg, ← spacing, neg_div, round_even_neg]
  push_cast
  ring

theorem rounded_zero : rounded 0 = 0 := by
  have zero := round_even_int 0
  rw [Int.cast_zero] at zero
  rw [rounded, zero_div, zero, Int.cast_zero, zero_mul]

theorem rounded_nearest_multiple (number : ℚ) (whole : ℤ) :
    |rounded number - number| ≤ |whole * spacing number - number| := by
  have positive := spacing_positive number
  have nearest := round_even_nearest (number / spacing number) whole
  have scaled (digits : ℚ) :
      |digits * spacing number - number| = |digits - number / spacing number| * spacing number := by
    rw [← abs_of_pos positive, ← abs_mul, abs_of_pos positive]
    congr 1
    field_simp
  rw [rounded, scaled, scaled]
  exact mul_le_mul_of_nonneg_right nearest positive.le

theorem rounded_error (number : ℚ) : |rounded number - number| ≤ spacing number / 2 := by
  have positive := spacing_positive number
  have error := round_even_error (number / spacing number)
  have scaled : |rounded number - number| =
      |roundEven (number / spacing number) - number / spacing number| * spacing number := by
    rw [rounded, ← abs_of_pos positive, ← abs_mul, abs_of_pos positive]
    congr 1
    field_simp
  rw [scaled]
  nlinarith

theorem digits_le (number : ℚ) : |roundEven (number / spacing number)| ≤ 2 ^ 24 := by
  have positive := spacing_positive number
  have error := round_even_error (number / spacing number)
  have size : |number / spacing number| < 2 ^ 24 := by
    rw [abs_div, abs_of_pos positive, div_lt_iff₀ positive]
    exact abs_lt_spacing number
  have triangle := abs_sub_abs_le_abs_sub
    (roundEven (number / spacing number) : ℚ) (number / spacing number)
  have digits : |(roundEven (number / spacing number) : ℚ)| < 2 ^ 24 + 1 := by linarith
  have whole : |roundEven (number / spacing number)| < 2 ^ 24 + 1 := by exact_mod_cast digits
  omega

theorem digits_full {number : ℚ} (positive : 0 < number) (normal : -149 < scale number) :
    2 ^ 23 ≤ roundEven (number / spacing number) := by
  have size : 2 ^ 23 ≤ number / spacing number := by
    rw [le_div_iff₀ (spacing_positive number)]
    exact (spacing_le_abs positive.ne' normal).trans_eq (abs_of_pos positive)
  have error := (abs_le.mp (round_even_error (number / spacing number))).1
  by_contra short
  have below : (roundEven (number / spacing number) : ℚ) + 1 ≤ 2 ^ 23 := by
    exact_mod_cast Int.add_one_le_of_lt (not_le.mp short)
  linarith

theorem rounded_on_grid (number : ℚ) : OnGrid (rounded number) :=
  ⟨roundEven (number / spacing number), scale number, digits_le number, scale_floor number, rfl⟩

theorem finer_units (digits : ℤ) {power own : ℤ} (finer : power ≤ own) :
    ∃ whole : ℤ, (digits : ℚ) * 2 ^ own = whole * 2 ^ power := by
  refine ⟨digits * 2 ^ (own - power).toNat, ?_⟩
  push_cast
  rw [← zpow_natCast, Int.toNat_of_nonneg (by omega), mul_assoc,
    ← zpow_add₀ (by norm_num : (2 : ℚ) ≠ 0)]
  congr 2
  omega

theorem on_grid_cases {number : ℚ} (grid : OnGrid number) (power : ℤ) :
    (∃ whole : ℤ, number = whole * 2 ^ power) ∨ |number| ≤ 2 ^ 23 * 2 ^ power := by
  obtain ⟨digits, own, few, -, rfl⟩ := grid
  by_cases coarse : power ≤ own
  · exact .inl (finer_units digits coarse)
  · right
    have digitsBound : |(digits : ℚ)| ≤ 2 ^ 24 := by exact_mod_cast few
    have step : (2 : ℚ) ^ own ≤ 2 ^ (power - 1) :=
      zpow_le_zpow_right₀ (by norm_num) (by omega)
    have halve : (2 : ℚ) ^ power = 2 * 2 ^ (power - 1) := by
      rw [zpow_sub_one₀ (by norm_num : (2 : ℚ) ≠ 0)]
      ring
    have ownPositive : (0 : ℚ) < 2 ^ own := zpow_pos (by norm_num) _
    rw [abs_mul, abs_of_pos ownPositive, halve]
    calc |(digits : ℚ)| * 2 ^ own ≤ 2 ^ 24 * 2 ^ (power - 1) :=
          mul_le_mul digitsBound step ownPositive.le (by norm_num)
      _ = 2 ^ 23 * (2 * 2 ^ (power - 1)) := by ring

theorem rounded_nearest (number : ℚ) {other : ℚ} (grid : OnGrid other) :
    |rounded number - number| ≤ |other - number| := by
  by_cases zero : number = 0
  · rw [zero, rounded_zero, sub_zero, abs_zero]
    exact abs_nonneg _
  rcases (scale_floor number).lt_or_eq with normal | least
  · rcases on_grid_cases grid (scale number) with ⟨whole, rfl⟩ | small
    · exact rounded_nearest_multiple number whole
    · -- The grid starts anew at a power of two, which lies between the two numbers.
      have large := spacing_le_abs zero normal
      rw [← spacing] at small
      rcases le_total 0 number with nonneg | nonpos
      · have between := rounded_nearest_multiple number (2 ^ 23)
        rw [Int.cast_pow, Int.cast_ofNat] at between
        rw [abs_of_nonneg nonneg] at large
        rw [abs_of_nonpos (sub_nonpos.mpr large)] at between
        have far := neg_le_abs (other - number)
        have := le_abs_self other
        linarith
      · have between := rounded_nearest_multiple number (-2 ^ 23)
        rw [Int.cast_neg, Int.cast_pow, Int.cast_ofNat] at between
        rw [abs_of_nonpos nonpos] at large
        rw [abs_of_nonneg (by linarith : 0 ≤ -2 ^ 23 * spacing number - number)] at between
        have far := le_abs_self (other - number)
        have := neg_le_abs other
        linarith
  · obtain ⟨digits, own, -, floor, rfl⟩ := grid
    obtain ⟨whole, multiple⟩ := finer_units digits floor
    rw [multiple, least, ← spacing]
    exact rounded_nearest_multiple number whole

theorem rounded_of_on_grid {number : ℚ} (grid : OnGrid number) : rounded number = number := by
  have nearest := rounded_nearest number grid
  rw [sub_self, abs_zero] at nearest
  exact sub_eq_zero.mp (abs_eq_zero.mp (le_antisymm nearest (abs_nonneg _)))

/-- Rounding keeps order: two results in the wrong order would both be nearest
to the midpoint between them, which leaves one number for both. -/
theorem rounded_mono {left right : ℚ} (ordered : left ≤ right) : rounded left ≤ rounded right := by
  by_contra crossed
  rw [not_le] at crossed
  have leftNearest := rounded_nearest left (rounded_on_grid right)
  have rightNearest := rounded_nearest right (rounded_on_grid left)
  have leftHigh : rounded left + rounded right ≤ 2 * left := by
    by_contra low
    rw [abs_of_pos (by linarith : (0 : ℚ) < rounded left - left)] at leftNearest
    rcases abs_cases (rounded right - left) with ⟨same, -⟩ | ⟨same, -⟩ <;> linarith
  have rightLow : 2 * right ≤ rounded left + rounded right := by
    by_contra high
    rw [abs_of_neg (by linarith : rounded right - right < 0)] at rightNearest
    rcases abs_cases (rounded left - right) with ⟨same, -⟩ | ⟨same, -⟩ <;> linarith
  have same : left = right := by linarith
  rw [same] at crossed
  exact lt_irrefl _ crossed

end EvidenceGrid.Binary32

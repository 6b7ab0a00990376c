import EvidenceGrid.Proofs.Binary32.Conversion

/-!
Whole numbers among the binary32 values, seen through exact numbers: rounding to
the nearest with halves away from zero is exact, rounding down is, and so is the
conversion to a signed number up to its saturation.
-/

set_option autoImplicit false

namespace EvidenceGrid.Binary32

open Float.Model (UnpackedFloat)

/-- The integer nearest to a number; a half goes away from zero. -/
def roundAway (number : ℚ) : ℤ :=
  if number < 0 then -⌊-number + 1 / 2⌋ else ⌊number + 1 / 2⌋

theorem round_away_error (number : ℚ) : |(roundAway number : ℚ) - number| ≤ 1 / 2 := by
  unfold roundAway
  rw [abs_le]
  split_ifs with negative
  · have low := Int.floor_le (-number + 1 / 2)
    have high := Int.lt_floor_add_one (-number + 1 / 2)
    push_cast
    constructor <;> linarith
  · have low := Int.floor_le (number + 1 / 2)
    have high := Int.lt_floor_add_one (number + 1 / 2)
    constructor <;> linarith

theorem round_away_of_near {number : ℚ} {whole : ℤ} (near : |number - whole| < 1 / 2) :
    roundAway number = whole := by
  obtain ⟨low, high⟩ := abs_lt.mp near
  unfold roundAway
  split_ifs
  · rw [neg_eq_iff_eq_neg, Int.floor_eq_iff]
    push_cast
    constructor <;> linarith
  · rw [Int.floor_eq_iff]
    constructor <;> linarith

theorem round_away_int (whole : ℤ) : roundAway whole = whole :=
  round_away_of_near (by norm_num)

theorem round_away_mono : Monotone roundAway := by
  intro low high ordered
  unfold roundAway
  split_ifs with lowNegative highNegative highNegative
  · exact neg_le_neg (Int.floor_mono (by linarith))
  · have below : 0 ≤ ⌊-low + 1 / 2⌋ := Int.floor_nonneg.mpr (by linarith)
    have above : 0 ≤ ⌊high + 1 / 2⌋ := Int.floor_nonneg.mpr (by linarith)
    omega
  · exact absurd (ordered.trans_lt highNegative) lowNegative
  · exact Int.floor_mono (by linarith)

theorem round_away_eq_zero_iff (number : ℚ) : roundAway number = 0 ↔ |number| < 1 / 2 := by
  constructor
  · intro zero
    unfold roundAway at zero
    rw [abs_lt]
    split_ifs at zero with negative
    · obtain ⟨low, high⟩ := Int.floor_eq_iff.mp (neg_eq_zero.mp zero)
      push_cast at low high
      constructor <;> linarith
    · obtain ⟨low, high⟩ := Int.floor_eq_iff.mp zero
      push_cast at low high
      constructor <;> linarith
  · intro small
    exact round_away_of_near (by rwa [Int.cast_zero, sub_zero])

theorem round_away_sign (number : ℚ) :
    (roundAway number : ℚ) =
      if number < 0 then -((⌊|number| + 1 / 2⌋ : ℤ) : ℚ) else (⌊|number| + 1 / 2⌋ : ℤ) := by
  unfold roundAway
  split_ifs with negative
  · rw [abs_of_neg negative, Int.cast_neg]
  · rw [abs_of_nonneg (not_lt.mp negative)]

theorem number_whole_from : number wholeFrom = 2 ^ 23 := by
  have unpacked : wholeFrom.toModel.unpack =
      .finite .positive 8388608 0 (by norm_num) := rfl
  rw [number, unpacked]
  norm_num [unpackedNumber, Float.Model.UnpackedFloat.Sign.apply]

theorem number_one : number 1 = 1 := by
  have unpacked : (1 : Float32).toModel.unpack =
      .finite .positive 8388608 (-23) (by norm_num) := rfl
  rw [number, unpacked]
  norm_num [unpackedNumber, Float.Model.UnpackedFloat.Sign.apply]

theorem number_half : number 0.5 = 1 / 2 := by
  have unpacked : (0.5 : Float32).toModel.unpack =
      .finite .positive 8388608 (-24) (by norm_num) := rfl
  rw [number, unpacked]
  norm_num [unpackedNumber, Float.Model.UnpackedFloat.Sign.apply]

theorem whole_of_large {number : ℚ} (grid : OnGrid number) (large : 2 ^ 23 ≤ |number|) :
    ∃ whole : ℤ, number = whole := by
  rcases on_grid_cases grid 0 with ⟨whole, same⟩ | small
  · exact ⟨whole, by rw [same, zpow_zero, mul_one]⟩
  · have size : |number| = 2 ^ 23 := le_antisymm (by simpa using small) large
    rcases abs_choice number with same | opposite
    · exact ⟨2 ^ 23, by rw [← same, size]; norm_num⟩
    · exact ⟨-2 ^ 23, by rw [size] at opposite; push_cast; linarith⟩

theorem rounded_count {count : ℕ} (few : count ≤ 2 ^ 24) : rounded count = count :=
  rounded_of_on_grid (count_on_grid few)

theorem whole_of_rounded (count : ℕ) : ∃ whole : ℤ, rounded count = whole := by
  by_cases few : count ≤ 2 ^ 24
  · exact ⟨count, rounded_count few⟩
  · have many : (2 : ℚ) ^ 24 ≤ count := by exact_mod_cast (not_le.mp few).le
    have large := rounded_mono many
    rw [rounded_of_on_grid (by exact_mod_cast on_grid_two_pow (by norm_num : (-149 : ℤ) ≤ 24))]
      at large
    obtain ⟨whole, same⟩ := whole_of_large (rounded_on_grid count) (by
      rw [abs_of_nonneg (by linarith)]
      linarith)
    exact ⟨whole, same⟩

theorem on_grid_fraction {number : ℚ} (grid : OnGrid number) (nonneg : 0 ≤ number) :
    OnGrid (number - ⌊number⌋) := by
  obtain ⟨digits, power, few, floor, rfl⟩ := grid
  by_cases coarse : 0 ≤ power
  · have whole : (digits : ℚ) * 2 ^ power = ((digits * 2 ^ power.toNat : ℤ) : ℚ) := by
      push_cast
      rw [← zpow_natCast, Int.toNat_of_nonneg coarse]
    rw [whole, Int.floor_intCast, sub_self]
    exact on_grid_zero
  · have unit : (2 : ℚ) ^ power = 1 / (2 ^ (-power).toNat : ℕ) := by
      rw [Nat.cast_pow, Nat.cast_ofNat, ← zpow_natCast, Int.toNat_of_nonneg (by omega),
        zpow_neg, one_div, inv_inv]
    have digitsNonneg : 0 ≤ digits := by
      have positive : (0 : ℚ) < 2 ^ power := zpow_pos (by norm_num) _
      exact_mod_cast nonneg_of_mul_nonneg_left nonneg positive
    have floorValue : ⌊(digits : ℚ) * 2 ^ power⌋ = digits / (2 ^ (-power).toNat : ℕ) := by
      rw [unit, mul_one_div, Rat.floor_intCast_div_natCast]
    refine ⟨digits % (2 ^ (-power).toNat : ℕ), power, ?_, floor, ?_⟩
    · rw [abs_of_nonneg (Int.emod_nonneg _ (by positivity))]
      rw [abs_of_nonneg digitsNonneg] at few
      have quotientNonneg : 0 ≤ digits / (2 ^ (-power).toNat : ℕ) :=
        Int.ediv_nonneg digitsNonneg (by positivity)
      have split := Int.emod_add_mul_ediv digits (2 ^ (-power).toNat : ℕ)
      have product : 0 ≤ ((2 ^ (-power).toNat : ℕ) : ℤ) * (digits / (2 ^ (-power).toNat : ℕ)) :=
        mul_nonneg (by positivity) quotientNonneg
      omega
    · rw [floorValue, Int.emod_def, unit]
      have positive : ((2 ^ (-power).toNat : ℕ) : ℚ) ≠ 0 := by positivity
      push_cast at positive ⊢
      field_simp

section Nearest

variable {value : Float32}

theorem whole_part_value {magnitude : Float32} (finite : magnitude.isFinite = true)
    (nonneg : 0 ≤ number magnitude) (small : number magnitude < 2 ^ 23) :
    (wholePart magnitude).isFinite = true ∧
      number (wholePart magnitude) = (⌊number magnitude⌋ : ℤ) := by
  have floorSmall : ⌊number magnitude⌋ < 2 ^ 23 := by
    rw [Int.floor_lt]
    exact_mod_cast small
  have floorNonneg : 0 ≤ ⌊number magnitude⌋ := Int.floor_nonneg.mpr nonneg
  have converted : (magnitude.toUInt32.toNat : ℤ) = ⌊number magnitude⌋ := by
    rw [to_uint32_value finite, ← Int.floor_toNat]
    omega
  have exact := of_uint32_computes magnitude.toUInt32
  rw [← Int.cast_natCast, converted] at exact
  have size : |⌊number magnitude⌋| ≤ 2 ^ 24 := by
    rw [abs_of_nonneg floorNonneg]
    omega
  apply exact.value_of_on_grid (on_grid_int size)
  have : |(⌊number magnitude⌋ : ℚ)| ≤ 2 ^ 24 := by exact_mod_cast size
  exact lt_of_le_of_lt this (by norm_num)

theorem with_sign_value (value : Float32) {magnitude : Float32}
    (finite : magnitude.isFinite = true) :
    (withSignOf value magnitude).isFinite = true ∧
      number (withSignOf value magnitude) =
        if isNegative value then -number magnitude else number magnitude := by
  rw [withSignOf]
  split_ifs
  · exact neg_value finite
  · exact ⟨finite, rfl⟩

theorem abs_lt_iff_of_finite {bound : Float32} (finite : value.isFinite = true)
    (boundFinite : bound.isFinite = true) : value.abs < bound ↔ |number value| < number bound := by
  obtain ⟨sizeFinite, size⟩ := abs_value finite
  rw [lt_iff sizeFinite boundFinite, size]

/-- The magnitude below `2 ^ 23` is rounded exactly: the difference from the
whole part is on the grid, and so is the next integer. -/
theorem nearest_magnitude {magnitude : Float32} (finite : magnitude.isFinite = true)
    (nonneg : 0 ≤ number magnitude) (small : number magnitude < 2 ^ 23) :
    let whole := wholePart magnitude
    let chosen := if 0.5 ≤ magnitude - whole then whole + 1 else whole
    chosen.isFinite = true ∧ number chosen = (⌊number magnitude + 1 / 2⌋ : ℤ) := by
  intro whole chosen
  obtain ⟨wholeFinite, wholeNumber⟩ := whole_part_value finite nonneg small
  have low := Int.floor_le (number magnitude)
  have high := Int.lt_floor_add_one (number magnitude)
  have floorNonneg : 0 ≤ ⌊number magnitude⌋ := Int.floor_nonneg.mpr nonneg
  have floorSmall : ⌊number magnitude⌋ < 2 ^ 23 := by
    rw [Int.floor_lt]
    exact_mod_cast small
  have difference := sub_computes finite wholeFinite
  rw [wholeNumber] at difference
  obtain ⟨partFinite, partNumber⟩ := difference.value_of_on_grid
    (on_grid_fraction (on_grid_number magnitude) nonneg)
    (by rw [abs_of_nonneg (by linarith)]; linarith)
  have next := add_computes wholeFinite (rfl : (1 : Float32).isFinite = true)
  rw [wholeNumber, number_one] at next
  obtain ⟨nextFinite, nextNumber⟩ := next.value_of_on_grid
    (by
      have size : |⌊number magnitude⌋ + 1| ≤ 2 ^ 24 := by
        rw [abs_of_nonneg (by omega)]
        omega
      have grid := on_grid_int size
      rwa [Int.cast_add, Int.cast_one] at grid)
    (by rw [abs_of_nonneg (by linarith)]; linarith)
  have up : (0.5 : Float32) ≤ magnitude - wholePart magnitude ↔
      1 / 2 ≤ number magnitude - ⌊number magnitude⌋ := by
    rw [le_iff rfl partFinite, number_half, partNumber]
  by_cases half : 1 / 2 ≤ number magnitude - ⌊number magnitude⌋
  · have value : chosen = whole + 1 := if_pos (up.mpr half)
    rw [value]
    refine ⟨nextFinite, nextNumber.trans ?_⟩
    have floor : ⌊number magnitude + 1 / 2⌋ = ⌊number magnitude⌋ + 1 := by
      rw [Int.floor_eq_iff]
      push_cast
      constructor <;> linarith
    rw [floor, Int.cast_add, Int.cast_one]
  · have value : chosen = whole := if_neg (fun above => half (up.mp above))
    rw [value]
    refine ⟨wholeFinite, wholeNumber.trans ?_⟩
    have floor : ⌊number magnitude + 1 / 2⌋ = ⌊number magnitude⌋ := by
      rw [Int.floor_eq_iff]
      constructor <;> linarith
    rw [floor]

theorem nearest_value (finite : value.isFinite = true) :
    (nearest value).isFinite = true ∧ number (nearest value) = roundAway (number value) := by
  rw [nearest]
  split_ifs with small
  · rw [abs_lt_iff_of_finite finite rfl, number_whole_from] at small
    obtain ⟨sizeFinite, size⟩ := abs_value finite
    obtain ⟨chosenFinite, chosenNumber⟩ := nearest_magnitude sizeFinite
      (by rw [size]; exact abs_nonneg _) (by rwa [size])
    obtain ⟨signedFinite, signedNumber⟩ := with_sign_value value chosenFinite
    refine ⟨signedFinite, signedNumber.trans ?_⟩
    rw [chosenNumber, size, round_away_sign]
    have sign := number_of_sign value
    have sizeNonneg := abs_nonneg (number value)
    split_ifs at sign ⊢ with bit negative negative
    · rfl
    · -- A zero with its sign bit set.
      have zero : number value = 0 := by linarith
      norm_num [zero]
    · linarith
    · rfl
  · rw [abs_lt_iff_of_finite finite rfl, number_whole_from, not_lt] at small
    obtain ⟨whole, same⟩ := whole_of_large (on_grid_number value) small
    exact ⟨finite, by rw [same, round_away_int]⟩

theorem finite_of_abs_lt {bound : Float32} (below : value.abs < bound) :
    value.isFinite = true := by
  by_contra infinite
  change decide ((UnpackedFloat.compare (Float32.Model.pack value.toModel.unpack.abs).unpack
    bound.toModel.unpack == some .lt) = true) = true at below
  change ¬value.toModel.unpack.isFinite = true at infinite
  generalize value.toModel.unpack = unpacked at infinite below
  cases unpacked with
  | infinity sign =>
      have size : (Float32.Model.pack (UnpackedFloat.infinity sign).abs).unpack =
          .infinity .positive := by cases sign <;> rfl
      rw [size] at below
      generalize bound.toModel.unpack = other at below
      cases other with
      | infinity sign => cases sign <;> cases below
      | _ => cases below
  | notANumber => cases below
  | zero sign => exact infinite rfl
  | finite sign digits power positive => exact infinite rfl

theorem finite_of_nearest (finite : (nearest value).isFinite = true) : value.isFinite = true := by
  rw [nearest] at finite
  split_ifs at finite with small
  · exact finite_of_abs_lt small
  · exact finite

end Nearest

section Floor

variable {value : Float32}

theorem whole_toward_zero (finite : value.isFinite = true) (small : |number value| < 2 ^ 23) :
    let whole := withSignOf value (wholePart value.abs)
    whole.isFinite = true ∧ |number whole| ≤ 2 ^ 23 ∧
      (number whole = ⌊number value⌋ ∧ ¬number value < number whole ∨
        number whole = ⌊number value⌋ + 1 ∧ number value < number whole) := by
  intro whole
  obtain ⟨sizeFinite, size⟩ := abs_value finite
  obtain ⟨partFinite, part⟩ := whole_part_value sizeFinite
    (by rw [size]; exact abs_nonneg _) (by rwa [size])
  obtain ⟨wholeFinite, wholeNumber⟩ := with_sign_value value partFinite
  have sizeNonneg := abs_nonneg (number value)
  have floorNonneg : (0 : ℚ) ≤ ⌊|number value|⌋ := by
    exact_mod_cast Int.floor_nonneg.mpr sizeNonneg
  have low := Int.floor_le |number value|
  have high := Int.lt_floor_add_one |number value|
  have sign := number_of_sign value
  rw [part, size] at wholeNumber
  change number whole = _ at wholeNumber
  set steps := ⌊|number value|⌋
  refine ⟨wholeFinite, ?_, ?_⟩
  · rw [wholeNumber]
    split_ifs
    · rw [abs_neg, abs_of_nonneg floorNonneg]
      linarith
    · rw [abs_of_nonneg floorNonneg]
      linarith
  · split_ifs at sign wholeNumber with negative
    · by_cases fraction : (steps : ℚ) < |number value|
      · have floor : ⌊number value⌋ = -steps - 1 := by
          rw [Int.floor_eq_iff]
          push_cast
          constructor <;> linarith
        right
        rw [floor, wholeNumber]
        push_cast
        constructor <;> linarith
      · have floor : ⌊number value⌋ = -steps := by
          rw [Int.floor_eq_iff]
          push_cast
          constructor <;> linarith
        left
        rw [floor, wholeNumber]
        push_cast
        exact ⟨rfl, by linarith⟩
    · left
      rw [wholeNumber, sign]
      exact ⟨rfl, not_lt.mpr low⟩

theorem floor_value (finite : value.isFinite = true) :
    (floor value).isFinite = true ∧ number (floor value) = (⌊number value⌋ : ℤ) := by
  rw [floor]
  split_ifs with small
  · rw [abs_lt_iff_of_finite finite rfl, number_whole_from] at small
    obtain ⟨wholeFinite, bounded, parts⟩ := whole_toward_zero finite small
    simp only [lt_iff finite wholeFinite]
    rcases parts with ⟨same, above⟩ | ⟨next, below⟩
    · rw [if_neg above]
      exact ⟨wholeFinite, same⟩
    · rw [if_pos below]
      have less := sub_computes wholeFinite (rfl : (1 : Float32).isFinite = true)
      rw [next, number_one, add_sub_cancel_right] at less
      rw [next] at bounded
      obtain ⟨low, high⟩ := abs_le.mp bounded
      have few : |⌊number value⌋| ≤ 2 ^ 24 := by
        rw [abs_le]
        constructor
        · have : (-2 ^ 24 : ℚ) ≤ ⌊number value⌋ := by linarith
          exact_mod_cast this
        · have : (⌊number value⌋ : ℚ) ≤ 2 ^ 24 := by linarith
          exact_mod_cast this
      apply less.value_of_on_grid (on_grid_int few)
      have : |(⌊number value⌋ : ℚ)| ≤ 2 ^ 24 := by exact_mod_cast few
      exact lt_of_le_of_lt this (by norm_num)
  · rw [abs_lt_iff_of_finite finite rfl, number_whole_from, not_lt] at small
    obtain ⟨whole, same⟩ := whole_of_large (on_grid_number value) small
    exact ⟨finite, by rw [same, Int.floor_intCast]⟩

theorem finite_of_floor (finite : (floor value).isFinite = true) : value.isFinite = true := by
  rw [floor] at finite
  split_ifs at finite with small
  · exact finite_of_abs_lt small
  · exact finite

end Floor

theorem number_zero : number 0 = 0 := rfl

theorem to_signed_value {value : Float32} (finite : value.isFinite = true) :
    toSigned value =
      if number value < 0 then -((min ⌊-number value⌋₊ (2 ^ 31) : ℕ) : ℤ)
      else ((min ⌊number value⌋₊ (2 ^ 31 - 1) : ℕ) : ℤ) := by
  have negative : value < 0 ↔ number value < 0 := by
    rw [lt_iff finite rfl, number_zero]
  have opposite := neg_value finite
  rw [toSigned]
  simp only [negative, to_uint32_value finite, to_uint32_value opposite.1, opposite.2]
  split_ifs <;> congr 1 <;> omega

theorem to_signed_eq_zero_iff {value : Float32} (finite : value.isFinite = true) :
    toSigned value = 0 ↔ |number value| < 1 := by
  rw [to_signed_value finite]
  split_ifs with negative
  · rw [abs_of_neg negative, neg_eq_zero, ← Nat.floor_eq_zero]
    omega
  · rw [abs_of_nonneg (not_lt.mp negative), ← Nat.floor_eq_zero]
    omega

end EvidenceGrid.Binary32

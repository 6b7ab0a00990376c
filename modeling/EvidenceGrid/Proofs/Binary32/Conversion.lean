import EvidenceGrid.Proofs.Binary32.Comparison
import EvidenceGrid.Binary32.Order
import EvidenceGrid.Binary32.Whole

/-!
The operations that only touch the sign, the choice between two values, and the
conversions from and to machine integers, as operations on exact numbers. A
conversion to an unsigned number drops the fraction and saturates; the values
that are not finite are left out.
-/

set_option autoImplicit false

namespace EvidenceGrid.Binary32

open Float.Model (Format UnpackedFloat)
open Float.Model.UnpackedFloat

theorem Computes.value_of_on_grid {result : Float32} {exact : ℚ} (computes : Computes result exact)
    (grid : OnGrid exact) (small : |exact| < 2 ^ 128) :
    result.isFinite = true ∧ number result = exact := by
  have same := rounded_of_on_grid grid
  have finite := computes.finite_iff.mpr (by rwa [same])
  exact ⟨finite, (computes.number_eq finite).trans same⟩

section Sign

variable {value : Float32}

theorem unpacked_number_neg (unpacked : UnpackedFloat) :
    unpackedNumber unpacked.neg = -unpackedNumber unpacked := by
  cases unpacked with
  | finite sign digits power positive =>
      simp only [UnpackedFloat.neg, unpackedNumber, sign_apply_cast, sign_factor_neg]
      ring
  | _ => simp [UnpackedFloat.neg, unpackedNumber]

theorem unpacked_number_abs (unpacked : UnpackedFloat) :
    unpackedNumber unpacked.abs = |unpackedNumber unpacked| := by
  cases unpacked with
  | finite sign digits power positive =>
      have unit : (0 : ℚ) < 2 ^ power := zpow_pos (by norm_num) _
      simp only [UnpackedFloat.abs, unpackedNumber, sign_apply_cast]
      cases sign <;> simp [signFactor, abs_mul, abs_of_pos unit]
  | _ => simp [UnpackedFloat.abs, unpackedNumber]

theorem neg_computes (finite : value.isFinite = true) : Computes (-value) (-number value) := by
  have canonical := canonical_value value
  have own : RoundsTo value.toModel.unpack.neg (-number value) := by
    rw [number, ← unpacked_number_neg]
    change value.toModel.unpack.isFinite = true at finite
    generalize value.toModel.unpack = unpacked at finite canonical ⊢
    cases unpacked with
    | infinity _ => cases finite
    | notANumber => cases finite
    | zero sign => exact rounds_to_self rfl trivial
    | finite sign digits power positive => exact rounds_to_self rfl canonical
  exact pack_computes own

theorem abs_computes (finite : value.isFinite = true) : Computes value.abs |number value| := by
  have canonical := canonical_value value
  have own : RoundsTo value.toModel.unpack.abs |number value| := by
    rw [number, ← unpacked_number_abs]
    change value.toModel.unpack.isFinite = true at finite
    generalize value.toModel.unpack = unpacked at finite canonical ⊢
    cases unpacked with
    | infinity _ => cases finite
    | notANumber => cases finite
    | zero sign => exact rounds_to_self rfl trivial
    | finite sign digits power positive => exact rounds_to_self rfl canonical
  exact pack_computes own

theorem on_grid_neg {exact : ℚ} (grid : OnGrid exact) : OnGrid (-exact) := by
  obtain ⟨digits, power, few, floor, rfl⟩ := grid
  exact ⟨-digits, power, by rwa [abs_neg], floor, by push_cast; ring⟩

theorem neg_value (finite : value.isFinite = true) :
    (-value).isFinite = true ∧ number (-value) = -number value :=
  (neg_computes finite).value_of_on_grid (on_grid_neg (on_grid_number value))
    (by rw [abs_neg]; exact abs_number_lt finite)

theorem abs_value (finite : value.isFinite = true) :
    value.abs.isFinite = true ∧ number value.abs = |number value| := by
  apply (abs_computes finite).value_of_on_grid
  · rcases abs_choice (number value) with same | opposite
    · rw [same]
      exact on_grid_number value
    · rw [opposite]
      exact on_grid_neg (on_grid_number value)
  · rw [abs_abs]
    exact abs_number_lt finite


/-! ## The sign bit -/

theorem unpack_sign_digit (bits : BitVec 32) :
    (@unpackSign Format.binary32 bits).toNat = bits.toNat >>> 31 := by
  change (bits.extractLsb 31 31).toNat = _
  rw [BitVec.extractLsb_toNat, Nat.shiftRight_eq_div_pow]
  have := bits.isLt
  omega

theorem is_negative_iff (value : Float32) :
    isNegative value = true ↔
      Sign.ofBitVec (@unpackSign Format.binary32 value.toModel.toBits.toBitVec) = .negative := by
  have digit := unpack_sign_digit value.toModel.toBits.toBitVec
  have size := value.toModel.toBits.toBitVec.isLt
  have bit : isNegative value = true ↔ value.toModel.toBits.toBitVec.toNat >>> 31 = 1 := by
    change (value.toModel.toBits >>> 31 == 1) = true ↔ _
    rw [beq_iff_eq, ← UInt32.toNat_inj, UInt32.toNat_shiftRight]
    rfl
  rw [bit, ← digit, Sign.ofBitVec]
  split_ifs with zero
  · simp [zero]
  · have : (@unpackSign Format.binary32 value.toModel.toBits.toBitVec).toNat ≠ 0 := by
      intro same
      exact zero (BitVec.eq_of_toNat_eq same)
    rw [Nat.shiftRight_eq_div_pow] at digit
    simp
    omega

theorem unpacked_number_sign (bits : BitVec 32) :
    unpackedNumber (unpack Format.binary32 bits) =
      signFactor (Sign.ofBitVec (@unpackSign Format.binary32 bits)) *
        |unpackedNumber (unpack Format.binary32 bits)| := by
  have magnitude (sign : Sign) (digits : Nat) (power : Int) (positive : 0 < digits) :
      unpackedNumber (.finite sign digits power positive) =
        signFactor sign * |unpackedNumber (.finite sign digits power positive)| := by
    have unit : (0 : ℚ) < 2 ^ power := zpow_pos (by norm_num) _
    simp only [unpackedNumber, sign_apply_cast]
    cases sign <;> simp [signFactor, abs_mul, abs_of_pos unit]
  rw [unpack]
  split_ifs
  · simp [unpackedNumber]
  · simp [unpackedNumber]
  · simp [unpackedNumber]
  · exact magnitude _ _ _ _
  · exact magnitude _ _ _ _

theorem number_of_sign (value : Float32) :
    number value = if isNegative value then -|number value| else |number value| := by
  have sign := unpacked_number_sign value.toModel.toBits.toBitVec
  change number value = signFactor _ * |number value| at sign
  split_ifs with negative
  · rw [(is_negative_iff value).mp negative, signFactor, neg_one_mul] at sign
    exact sign
  · have positive : Sign.ofBitVec (@unpackSign Format.binary32
        value.toModel.toBits.toBitVec) = .positive := by
      rw [is_negative_iff] at negative
      cases same : Sign.ofBitVec (@unpackSign Format.binary32
        value.toModel.toBits.toBitVec) with
      | negative => exact absurd same negative
      | positive => rfl
    rw [positive, signFactor, one_mul] at sign
    exact sign

/-! ## Choice -/

theorem not_nan (finite : value.isFinite = true) : ¬value.isNaN = true := by
  change value.toModel.unpack.isFinite = true at finite
  change ¬value.toModel.unpack.isNaN = true
  intro isNaN
  cases unpacked : value.toModel.unpack with
  | notANumber =>
      rw [unpacked] at finite
      cases finite
  | _ =>
      rw [unpacked] at isNaN
      cases isNaN

end Sign

section Choice

variable {left right : Float32}

theorem greater_value (leftFinite : left.isFinite = true) (rightFinite : right.isFinite = true) :
    (greater left right).isFinite = true ∧
      number (greater left right) = max (number left) (number right) := by
  rw [greater, if_neg (not_nan leftFinite), if_neg (not_nan rightFinite)]
  split_ifs with below
  · rw [lt_iff leftFinite rightFinite] at below
    exact ⟨rightFinite, (max_eq_right below.le).symm⟩
  · rw [lt_iff leftFinite rightFinite, not_lt] at below
    exact ⟨leftFinite, (max_eq_left below).symm⟩

theorem lesser_value (leftFinite : left.isFinite = true) (rightFinite : right.isFinite = true) :
    (lesser left right).isFinite = true ∧
      number (lesser left right) = min (number left) (number right) := by
  rw [lesser, if_neg (not_nan leftFinite), if_neg (not_nan rightFinite)]
  split_ifs with below
  · rw [lt_iff rightFinite leftFinite] at below
    exact ⟨rightFinite, (min_eq_right below.le).symm⟩
  · rw [lt_iff rightFinite leftFinite, not_lt] at below
    exact ⟨leftFinite, (min_eq_left below).symm⟩

theorem confine_value {low high value : Float32} (lowFinite : low.isFinite = true)
    (highFinite : high.isFinite = true) (finite : value.isFinite = true) :
    (confine low high value).isFinite = true ∧
      number (confine low high value) = min (max (number value) (number low)) (number high) := by
  have raised := greater_value finite lowFinite
  have lowered := lesser_value raised.1 highFinite
  rw [raised.2] at lowered
  exact lowered

end Choice

/-! ## Machine integers -/

theorem of_uint32_computes (whole : UInt32) : Computes whole.toFloat32 whole.toNat := by
  have exact := normalize_rounds whole.toNat 0 .positive
  rw [zpow_zero, mul_one, Int.cast_natCast] at exact
  exact pack_computes exact

theorem of_uint32_finite (whole : UInt32) : whole.toFloat32.isFinite = true := by
  rw [(of_uint32_computes whole).finite_iff]
  have size : (whole.toNat : ℚ) ≤ 2 ^ (32 : ℤ) := by
    have := whole.toNat_lt
    exact_mod_cast this.le
  have low := rounded_mono (show (0 : ℚ) ≤ whole.toNat from Nat.cast_nonneg _)
  have high := rounded_mono size
  rw [rounded_zero] at low
  rw [rounded_of_on_grid (on_grid_two_pow (by norm_num))] at high
  rw [abs_of_nonneg low]
  exact lt_of_le_of_lt high (by norm_num)

theorem round_to_int_truncates (sign : Sign) (digits : Nat) (power : Int) :
    roundToInt sign digits power = sign.apply ⌊(digits : ℚ) * 2 ^ power⌋ := by
  have number := decrease_exponent_number digits power 0
  have low : (decreaseExponent digits power 0).2 ≤ 0 := by
    simp only [decreaseExponent]
    omega
  simp only [roundToInt, shiftToExponent]
  rw [← number]
  set few := (decreaseExponent digits power 0).1
  set own := (decreaseExponent digits power 0).2
  have stands := stands_shift (stands_exact few) (0 - own).toNat
  have unit : (few : ℚ) / 2 ^ (0 - own).toNat = few * 2 ^ own := by
    rw [div_eq_mul_inv, ← zpow_natCast, ← zpow_neg]
    congr 2
    omega
  rw [unit] at stands
  rw [stands_floor stands]

theorem to_int_value {unpacked : UnpackedFloat} (finite : unpacked.isFinite = true)
    (low high : Int) : (unpacked.toInt low high).toNat = ⌊unpackedNumber unpacked⌋₊ := by
  cases unpacked with
  | infinity _ => cases finite
  | notANumber => cases finite
  | zero sign => simp [toInt, unpackedNumber]
  | finite sign digits power positive =>
      have nonneg : (0 : ℚ) ≤ (digits : ℚ) * 2 ^ power :=
        mul_nonneg (Nat.cast_nonneg _) (zpow_nonneg (by norm_num) _)
      rw [toInt, round_to_int_truncates, unpackedNumber]
      cases sign with
      | positive =>
          simp only [Sign.apply, Int.cast_natCast]
          exact Int.floor_toNat _
      | negative =>
          have floorNonneg : 0 ≤ ⌊(digits : ℚ) * 2 ^ power⌋ := Int.floor_nonneg.mpr nonneg
          simp only [Sign.apply, Int.cast_neg, Int.cast_natCast, neg_mul]
          rw [Nat.floor_of_nonpos (by linarith), Int.toNat_of_nonpos (by omega)]

theorem to_uint32_value {value : Float32} (finite : value.isFinite = true) :
    value.toUInt32.toNat = min ⌊number value⌋₊ (2 ^ 32 - 1) := by
  have clamp (whole : Nat) : (UInt32.ofNatClamp whole).toNat = min whole (2 ^ 32 - 1) := by
    rcases Nat.lt_or_ge whole UInt32.size with small | large
    · rw [UInt32.toNat_ofNatClamp_of_lt small]
      change whole < 2 ^ 32 at small
      omega
    · rw [UInt32.toNat_ofNatClamp_of_le large]
      change 2 ^ 32 ≤ whole at large
      change 2 ^ 32 - 1 = _
      omega
  change value.toModel.unpack.isFinite = true at finite
  change (UInt32.ofNatClamp (value.toModel.unpack.toInt 0 _).toNat).toNat = _
  rw [clamp, to_int_value finite]
  rfl

theorem to_uint8_value {value : Float32} (finite : value.isFinite = true) :
    value.toUInt8.toNat = min ⌊number value⌋₊ (2 ^ 8 - 1) := by
  have clamp (whole : Nat) : (UInt8.ofNatClamp whole).toNat = min whole (2 ^ 8 - 1) := by
    rcases Nat.lt_or_ge whole UInt8.size with small | large
    · rw [UInt8.toNat_ofNatClamp_of_lt small]
      change whole < 2 ^ 8 at small
      omega
    · rw [UInt8.toNat_ofNatClamp_of_le large]
      change 2 ^ 8 ≤ whole at large
      change 2 ^ 8 - 1 = _
      omega
  change value.toModel.unpack.isFinite = true at finite
  change (UInt8.ofNatClamp (value.toModel.unpack.toInt 0 _).toNat).toNat = _
  rw [clamp, to_int_value finite]
  rfl

theorem to_uint8_nan {value : Float32} (nan : value.isNaN = true) : value.toUInt8 = 0 := by
  change value.toModel.unpack.isNaN = true at nan
  change UInt8.ofNatClamp (value.toModel.unpack.toInt 0 _).toNat = 0
  cases unpacked : value.toModel.unpack with
  | notANumber => rfl
  | _ =>
      rw [unpacked] at nan
      cases nan

end EvidenceGrid.Binary32

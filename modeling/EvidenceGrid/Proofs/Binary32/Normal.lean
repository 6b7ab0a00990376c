import EvidenceGrid.Proofs.Binary32.Shifting

/-!
Rounding, packing and unpacking in the float model, seen through exact numbers.
Every operation of the model ends in one of its rounding functions, whose result
is given here as a rounded number in the one form that survives packing. Packing
loses a result only when it is too large for the format.
-/

set_option autoImplicit false

namespace EvidenceGrid.Binary32

open Float.Model (Format UnpackedFloat totalExponent)
open Float.Model.UnpackedFloat

/-- The exact number of a finite unpacked value. The others are given zero, and
nothing is said about them. -/
def unpackedNumber : UnpackedFloat → ℚ
  | .finite sign digits power _ => (sign.apply digits : ℤ) * 2 ^ power
  | _ => 0

/-- The one form of a finite value: all 24 digits, or the least power. -/
def Canonical : UnpackedFloat → Prop
  | .finite _ digits power _ =>
      digits < 2 ^ 24 ∧ -149 ≤ power ∧ (2 ^ 23 ≤ digits ∨ power = -149)
  | _ => True

/-- A finite value in canonical form that stands for an exact number rounded. -/
structure RoundsTo (result : UnpackedFloat) (exact : ℚ) : Prop where
  finite : result.isFinite = true
  canonical : Canonical result
  number : unpackedNumber result = rounded exact

def signFactor : Sign → ℚ
  | .negative => -1
  | .positive => 1

theorem sign_apply_cast (sign : Sign) (whole : ℤ) :
    ((sign.apply whole : ℤ) : ℚ) = signFactor sign * whole := by
  cases sign <;> simp [Sign.apply, signFactor]

theorem rounded_sign (sign : Sign) (number : ℚ) :
    rounded (signFactor sign * number) = signFactor sign * rounded number := by
  cases sign
  · simp [signFactor, rounded_neg]
  · simp [signFactor]

/-- The exponent the model chooses for a significand is the grid's own around
any number the significand stands for. -/
theorem scale_of_stands {digits : Nat} {power : Int} {number : ℚ} (positive : 0 < number)
    (lower : digits ≤ number) (upper : number < digits + 1)
    (enough : 2 ^ 23 ≤ digits ∨ power ≤ -149) :
    scale (number * 2 ^ power) = max ((digits.log2 : Int) + power - 23) (-149) := by
  have unit : (0 : ℚ) < 2 ^ power := zpow_pos (by norm_num) _
  have sizePositive : 0 < number * 2 ^ power := mul_pos positive unit
  rw [scale, abs_of_pos sizePositive]
  by_cases none : digits = 0
  · have tiny : power ≤ -149 := by
      rcases enough with many | tiny
      · omega
      · exact tiny
    have small : number * 2 ^ power < ((2 : ℕ) : ℚ) ^ power := by
      rw [none] at upper
      push_cast at upper ⊢
      nlinarith
    have logSmall := (Int.lt_zpow_iff_log_lt (by norm_num : 1 < 2) sizePositive).mp small
    rw [none, Nat.log2_zero]
    omega
  · have low : (2 : ℚ) ^ (digits.log2 : ℤ) ≤ number := by
      have := Nat.log2_self_le none
      calc (2 : ℚ) ^ (digits.log2 : ℤ) ≤ digits := by
            rw [zpow_natCast]
            exact_mod_cast this
        _ ≤ number := lower
    have high : number < (2 : ℚ) ^ ((digits.log2 : ℤ) + 1) := by
      have : digits + 1 ≤ 2 ^ (digits.log2 + 1) := Nat.lt_log2_self
      calc number < digits + 1 := upper
        _ ≤ (2 : ℚ) ^ ((digits.log2 : ℤ) + 1) := by
            exact_mod_cast this
    have exponent : Int.log 2 (number * 2 ^ power) = digits.log2 + power := by
      apply le_antisymm
      · rw [← Int.lt_add_one_iff, ← Int.lt_zpow_iff_log_lt (by norm_num : 1 < 2) sizePositive]
        push_cast
        rw [show (digits.log2 : ℤ) + power + 1 = (digits.log2 + 1) + power by ring,
          zpow_add₀ (by norm_num : (2 : ℚ) ≠ 0)]
        exact mul_lt_mul_of_pos_right high unit
      · rw [← Int.zpow_le_iff_le_log (by norm_num : 1 < 2) sizePositive]
        push_cast
        rw [zpow_add₀ (by norm_num : (2 : ℚ) ≠ 0)]
        exact mul_le_mul_of_nonneg_right low unit.le
    rw [exponent]

theorem first_rounding {digits : Nat} {power : Int} {accuracy : Accuracy} {number : ℚ}
    (stands : Stands (ExtendedMantissa.ofMantissaAndAccuracy digits accuracy) number)
    (positive : 0 < number) (enough : 2 ^ 23 ≤ digits ∨ power ≤ -149) :
    let first := shiftToTargetExponent Format.binary32 digits power accuracy
    (first.1.roundedMantissa : ℚ) * 2 ^ first.2 = rounded (number * 2 ^ power) ∧
      first.1.roundedMantissa ≤ 2 ^ 24 ∧ -149 ≤ first.2 ∧
      (2 ^ 23 ≤ first.1.roundedMantissa ∨ first.2 = -149) := by
  have whole : (ExtendedMantissa.ofMantissaAndAccuracy digits accuracy).mantissa = digits := by
    rcases accuracy with _ | (_ | _ | _) <;> rfl
  have bounds := stands_bounds stands
  rw [whole] at bounds
  have exponent := scale_of_stands positive bounds.1 bounds.2 enough
  have reach : power ≤ scale (number * 2 ^ power) := by
    rw [exponent]
    rcases enough with many | tiny
    · have : 23 ≤ digits.log2 := (Nat.le_log2 (by omega)).mpr many
      omega
    · omega
  set exact := number * 2 ^ power with exactDef
  set count := (scale exact - power).toNat with countDef
  have target : Format.binary32.targetExponent (totalExponent digits power) = scale exact := by
    rw [target_exponent, exponent]
  have unfolded : shiftToTargetExponent Format.binary32 digits power accuracy =
      (ExtendedMantissa.ofMantissaAndAccuracy digits accuracy >>> count, scale exact) := by
    rw [shiftToTargetExponent, shiftToExponent, target]
    simp only [← countDef, Prod.mk.injEq, true_and]
    omega
  have quotient : number / 2 ^ count = exact / spacing exact := by
    have unit : (2 : ℚ) ^ power ≠ 0 := zpow_ne_zero _ (by norm_num)
    have split : spacing exact = 2 ^ power * 2 ^ count := by
      rw [spacing, ← zpow_natCast, ← zpow_add₀ (by norm_num : (2 : ℚ) ≠ 0)]
      congr 1
      omega
    rw [split, exactDef, mul_comm number, mul_div_mul_left _ _ unit]
  have shifted := stands_shift stands count
  rw [quotient] at shifted
  have value := stands_rounded shifted
  have exactPositive : 0 < exact := mul_pos positive (zpow_pos (by norm_num) _)
  simp only [unfolded]
  refine ⟨?_, ?_, scale_floor exact, ?_⟩
  · rw [rounded, ← value]
    push_cast
    rfl
  · have few := (le_abs_self _).trans (digits_le exact)
    rw [← value] at few
    exact_mod_cast few
  · rcases (scale_floor exact).lt_or_eq with normal | least
    · have full := digits_full exactPositive normal
      rw [← value] at full
      exact Or.inl (by exact_mod_cast full)
    · exact Or.inr least.symm

/-- The model's rounding is the rounding of exact numbers. -/
theorem round_with_accuracy_rounds (sign : Sign) {digits : Nat} {power : Int} {accuracy : Accuracy}
    {number : ℚ} (stands : Stands (ExtendedMantissa.ofMantissaAndAccuracy digits accuracy) number)
    (positive : 0 < number) (enough : 2 ^ 23 ≤ digits ∨ power ≤ -149) :
    RoundsTo (roundWithAccuracy Format.binary32 sign digits power accuracy)
      (signFactor sign * (number * 2 ^ power)) := by
  obtain ⟨value, fits, floor, full⟩ := first_rounding stands positive enough
  generalize firstEq : shiftToTargetExponent Format.binary32 digits power accuracy = first
    at value fits floor full
  obtain ⟨extended, target⟩ := first
  simp only at value fits floor full
  rw [roundWithAccuracy, firstEq]
  simp only
  rcases fits.lt_or_eq with short | carry
  · rw [shift_to_target_of_fits short floor]
    simp only
    split_ifs with zero
    · refine ⟨rfl, trivial, ?_⟩
      rw [rounded_sign, ← value, zero]
      simp [unpackedNumber]
    · refine ⟨rfl, ⟨short, floor, full⟩, ?_⟩
      rw [rounded_sign, ← value, unpackedNumber, sign_apply_cast]
      push_cast
      ring
  · rw [carry, shift_to_target_of_carry floor]
    refine ⟨rfl, ⟨by norm_num, by omega, Or.inl le_rfl⟩, ?_⟩
    change ((sign.apply ((2 ^ 23 : Nat) : ℤ) : ℤ) : ℚ) * 2 ^ (target + 1) = _
    rw [rounded_sign, ← value, carry, sign_apply_cast,
      zpow_add_one₀ (by norm_num : (2 : ℚ) ≠ 0)]
    push_cast
    ring

theorem decrease_exponent_number (digits : Nat) (power least : Int) :
    ((decreaseExponent digits power least).1 : ℚ) * 2 ^ (decreaseExponent digits power least).2 =
      digits * 2 ^ power := by
  simp only [decreaseExponent, Nat.shiftLeft_eq]
  push_cast
  rw [← zpow_natCast, mul_assoc, ← zpow_add₀ (by norm_num : (2 : ℚ) ≠ 0)]
  congr 2
  omega

theorem round_rounds (sign : Sign) {digits : Nat} (positive : 0 < digits) (power : Int) :
    RoundsTo (UnpackedFloat.round Format.binary32 sign digits power)
      (signFactor sign * (digits * 2 ^ power)) := by
  set target := Format.binary32.targetExponent (totalExponent digits power) with targetDef
  rw [target_exponent] at targetDef
  have enough : 2 ^ 23 ≤ (decreaseExponent digits power target).1 ∨
      (decreaseExponent digits power target).2 ≤ -149 := by
    simp only [decreaseExponent, Nat.shiftLeft_eq]
    by_cases least : target = -149
    · right
      omega
    · left
      calc 2 ^ 23 ≤ 2 ^ (digits.log2 + (power - target).toNat) :=
            Nat.pow_le_pow_right (by norm_num) (by omega)
        _ = 2 ^ digits.log2 * 2 ^ (power - target).toNat := Nat.pow_add _ _ _
        _ ≤ digits * 2 ^ (power - target).toNat :=
            Nat.mul_le_mul_right _ (Nat.log2_self_le positive.ne')
  have digitsPositive : 0 < (decreaseExponent digits power target).1 := by
    simp only [decreaseExponent, Nat.shiftLeft_eq]
    exact Nat.mul_pos positive (Nat.two_pow_pos _)
  rw [← decrease_exponent_number digits power target]
  exact round_with_accuracy_rounds sign (stands_exact (decreaseExponent digits power target).1)
    (by exact_mod_cast digitsPositive) enough

theorem normalize_rounds (whole : Int) (power : Int) (zeroSign : Sign) :
    RoundsTo (UnpackedFloat.normalize Format.binary32 whole power zeroSign)
      (whole * 2 ^ power) := by
  rcases lt_trichotomy whole 0 with negative | rfl | positive
  · have cast : (((-whole).toNat : ℕ) : ℚ) = -(whole : ℚ) := by
      exact_mod_cast Int.toNat_of_nonneg (by omega : 0 ≤ -whole)
    have exact : (whole : ℚ) * 2 ^ power =
        signFactor .negative * ((-whole).toNat * 2 ^ power) := by
      rw [cast, signFactor]
      ring
    rw [UnpackedFloat.normalize, Int.compare_eq_lt.mpr negative, exact]
    exact round_rounds .negative (by omega) power
  · refine ⟨rfl, trivial, ?_⟩
    rw [Int.cast_zero, zero_mul, rounded_zero]
    rfl
  · have cast : ((whole.toNat : ℕ) : ℚ) = (whole : ℚ) := by
      exact_mod_cast Int.toNat_of_nonneg positive.le
    have exact : (whole : ℚ) * 2 ^ power = signFactor .positive * (whole.toNat * 2 ^ power) := by
      rw [cast, signFactor, one_mul]
    rw [UnpackedFloat.normalize, Int.compare_eq_gt.mpr positive, exact]
    exact round_rounds .positive (by omega) power

/-! ## Packing -/

theorem leading_one_digits {digits : Nat} (low : 2 ^ 23 ≤ digits) (high : digits < 2 ^ 24) :
    (1#1 ++ BitVec.ofNat 23 digits).toNat = digits := by
  rw [BitVec.toNat_append, BitVec.toNat_ofNat, ← Nat.shiftLeft_add_eq_or_of_lt (by omega)]
  simp only [Nat.shiftLeft_eq]
  change 1 * 2 ^ 23 + digits % 2 ^ 23 = digits
  omega

theorem biased_exponent (power : Int) :
    power + (Format.binary32.exponentBias : Int) + ((23 : ℕ) : Int) = power + 150 := by
  change power + 127 + 23 = power + 150
  ring

theorem unpack_pack_full (sign : Sign) {digits : Nat} {power : Int} (positive : 0 < digits)
    (full : 2 ^ 23 ≤ digits) (high : digits < 2 ^ 24) (floor : -149 ≤ power)
    (fits : power ≤ 104) :
    unpack Format.binary32 (pack Format.binary32 (.finite sign digits power positive)) =
      .finite sign digits power positive := by
  have room : ¬2 ^ 8 ≤ (power + 150).toNat + 1 := by omega
  have log : digits.log2 = 23 := (Nat.log2_eq_iff positive.ne').mpr ⟨full, by omega⟩
  have some : digits.log2 + 1 = Format.binary32.mantissaBits := by
    rw [log]
    rfl
  have stored : (BitVec.ofNat 8 (power + 150).toNat).toNat = (power + 150).toNat := by
    rw [BitVec.toNat_ofNat, Nat.mod_eq_of_lt (by omega)]
  have notInfinite : BitVec.ofNat 8 (power + 150).toNat ≠ -1#8 := by
    intro same
    have := congrArg BitVec.toNat same
    rw [stored] at this
    change (power + 150).toNat = 255 at this
    omega
  have notLeast : BitVec.ofNat 8 (power + 150).toNat ≠ 0#8 := by
    intro same
    have := congrArg BitVec.toNat same
    rw [stored] at this
    change (power + 150).toNat = 0 at this
    omega
  rw [pack]
  simp only [biased_exponent]
  rw [if_neg room, if_pos some, unpack]
  simp only [unpackMantissa_packComponents, unpackExponent_packComponents,
    unpackSign_packComponents, Sign.ofBitVec_toBitVec]
  rw [if_neg notInfinite, if_neg notLeast]
  simp only [leading_one_digits full high, stored]
  congr 1
  change ((power + 150).toNat : Int) - (127 + 23) = power
  omega

theorem unpack_pack_least (sign : Sign) {digits : Nat} (positive : 0 < digits)
    (few : digits < 2 ^ 23) :
    unpack Format.binary32 (pack Format.binary32 (.finite sign digits (-149) positive)) =
      .finite sign digits (-149) positive := by
  have room : ¬2 ^ 8 ≤ ((-149 : Int) + 150).toNat + 1 := by decide
  have log : digits.log2 < 23 := (Nat.log2_lt positive.ne').mpr few
  have short : ¬digits.log2 + 1 = Format.binary32.mantissaBits := by
    change ¬digits.log2 + 1 = 24
    omega
  have stored : (BitVec.ofNat 23 digits).toNat = digits := by
    rw [BitVec.toNat_ofNat, Nat.mod_eq_of_lt (by omega)]
  have notZero : BitVec.ofNat 23 digits ≠ 0#23 := by
    intro same
    have := congrArg BitVec.toNat same
    rw [stored] at this
    change digits = 0 at this
    omega
  rw [pack]
  simp only [biased_exponent]
  rw [if_neg room, if_neg short, unpack]
  simp only [unpackMantissa_packComponents, unpackExponent_packComponents,
    unpackSign_packComponents, Sign.ofBitVec_toBitVec]
  rw [if_neg (by decide : ¬(0#8 = -1#8)), if_pos trivial, dif_neg notZero]
  simp only [stored]
  congr 1

theorem unpack_pack_large (sign : Sign) {digits : Nat} {power : Int} (positive : 0 < digits)
    (large : 104 < power) :
    unpack Format.binary32 (pack Format.binary32 (.finite sign digits power positive)) =
      .infinity sign := by
  have beyond : 2 ^ 8 ≤ (power + 150).toNat + 1 := by omega
  rw [pack]
  simp only [biased_exponent]
  rw [if_pos beyond, packedInfinity, unpack]
  simp only [unpackMantissa_packComponents, unpackExponent_packComponents,
    unpackSign_packComponents, Sign.ofBitVec_toBitVec]
  rfl

theorem unpack_pack_finite (sign : Sign) {digits : Nat} {power : Int} (positive : 0 < digits)
    (canonical : Canonical (.finite sign digits power positive)) :
    unpack Format.binary32 (pack Format.binary32 (.finite sign digits power positive)) =
      if power ≤ 104 then .finite sign digits power positive else .infinity sign := by
  obtain ⟨high, floor, full⟩ := canonical
  split_ifs with fits
  · by_cases normal : 2 ^ 23 ≤ digits
    · exact unpack_pack_full sign positive normal high floor fits
    · obtain rfl : power = -149 := full.resolve_left normal
      exact unpack_pack_least sign positive (not_le.mp normal)
  · exact unpack_pack_large sign positive (not_le.mp fits)

theorem canonical_unpack (bits : BitVec 32) :
    Canonical (unpack Format.binary32 bits) ∧
      ∀ sign digits power positive,
        unpack Format.binary32 bits = .finite sign digits power positive → power ≤ 104 := by
  have digitsBound := (@unpackMantissa Format.binary32 bits).isLt
  have exponentBound := (@unpackExponent Format.binary32 bits).isLt
  change (@unpackMantissa Format.binary32 bits).toNat < 2 ^ 23 at digitsBound
  change (@unpackExponent Format.binary32 bits).toNat < 2 ^ 8 at exponentBound
  rw [unpack]
  split_ifs with infinite none least zero
  · exact ⟨trivial, by simp⟩
  · exact ⟨trivial, by simp⟩
  · exact ⟨trivial, by simp⟩
  · have exponentZero : (@unpackExponent Format.binary32 bits).toNat = 0 := by
      rw [least]
      rfl
    have power : ((@unpackExponent Format.binary32 bits).toNat : Int) -
        (Format.binary32.exponentBias + Format.binary32.mantissaBitsWithoutImplicit) + 1 =
          -149 := by
      rw [exponentZero]
      rfl
    refine ⟨⟨by omega, power.ge, Or.inr power⟩, ?_⟩
    intro sign digits chosen positive same
    cases same
    rw [power]
    decide
  · have exponentPositive : (@unpackExponent Format.binary32 bits).toNat ≠ 0 := by
      intro same
      exact least (BitVec.eq_of_toNat_eq same)
    have exponentSmall : (@unpackExponent Format.binary32 bits).toNat ≠ 255 := by
      intro same
      exact infinite (BitVec.eq_of_toNat_eq same)
    have digits : (1#1 ++ @unpackMantissa Format.binary32 bits).toNat =
        2 ^ 23 + (@unpackMantissa Format.binary32 bits).toNat := by
      rw [BitVec.toNat_append, ← Nat.shiftLeft_add_eq_or_of_lt (by exact digitsBound)]
      rfl
    have power : ((@unpackExponent Format.binary32 bits).toNat : Int) -
        (Format.binary32.exponentBias + Format.binary32.mantissaBitsWithoutImplicit) =
        (@unpackExponent Format.binary32 bits).toNat - 150 := rfl
    refine ⟨⟨?_, ?_, Or.inl ?_⟩, ?_⟩
    · rw [digits]
      omega
    · rw [power]
      omega
    · rw [digits]
      omega
    · intro sign own chosen positive same
      cases same
      rw [power]
      omega

end EvidenceGrid.Binary32

import EvidenceGrid.Proofs.Binary32.Rounding

/-!
What the digit shifts of the float model compute. A significand with its round
bit and its sticky bit stands for an exact number; shifting keeps what it stands
for, and its rounded significand is that number rounded to an integer. From this
the model's rounding is the rounding of exact numbers, and its result has the one
form that packing expects.
-/

set_option autoImplicit false

namespace EvidenceGrid.Binary32

open Float.Model (Format UnpackedFloat totalExponent)
open Float.Model.UnpackedFloat

/-- What a significand and its two residual bits say about an exact number. -/
def Stands : ExtendedMantissa → ℚ → Prop
  | ⟨digits, false, false⟩, number => number = digits
  | ⟨digits, false, true⟩, number => digits < number ∧ number < digits + 1 / 2
  | ⟨digits, true, false⟩, number => number = digits + 1 / 2
  | ⟨digits, true, true⟩, number => digits + 1 / 2 < number ∧ number < digits + 1

theorem stands_exact (digits : Nat) :
    Stands (ExtendedMantissa.ofMantissaAndAccuracy digits .exact) digits := by
  simp [ExtendedMantissa.ofMantissaAndAccuracy, Stands]

theorem stands_bounds {extended : ExtendedMantissa} {number : ℚ}
    (stands : Stands extended number) :
    extended.mantissa ≤ number ∧ number < extended.mantissa + 1 := by
  rcases extended with ⟨digits, _ | _, _ | _⟩ <;> simp only [Stands] at stands ⊢
  · rw [stands]
    constructor <;> linarith
  · constructor <;> linarith [stands.1, stands.2]
  · rw [stands]
    constructor <;> linarith
  · constructor <;> linarith [stands.1, stands.2]

theorem stands_floor {extended : ExtendedMantissa} {number : ℚ}
    (stands : Stands extended number) : ⌊number⌋ = (extended.mantissa : ℤ) := by
  rw [Int.floor_eq_iff]
  exact_mod_cast stands_bounds stands

theorem stands_rounded {extended : ExtendedMantissa} {number : ℚ}
    (stands : Stands extended number) :
    (extended.roundedMantissa : ℤ) = roundEven number := by
  have floor := stands_floor stands
  have part : Int.fract number = number - extended.mantissa := by
    rw [Int.fract, floor]
    push_cast
    rfl
  unfold roundEven
  rw [part, floor]
  rcases extended with ⟨digits, _ | _, _ | _⟩ <;>
    simp only [Stands, ExtendedMantissa.roundedMantissa, ExtendedMantissa.accuracy,
      Accuracy.roundToNearestEven] at stands ⊢
  · rw [if_pos (by rw [stands]; norm_num)]
  · rw [if_pos (by linarith [stands.2])]
  · rw [if_neg (by rw [stands]; norm_num), if_neg (by rw [stands]; norm_num)]
    push_cast
    rfl
  · rw [if_neg (by linarith [stands.1]), if_pos (by linarith [stands.1])]
    push_cast
    rfl

theorem stands_shift_one {extended : ExtendedMantissa} {number : ℚ}
    (stands : Stands extended number) : Stands extended.shiftRightOne (number / 2) := by
  rcases extended with ⟨digits, round, sticky⟩
  have split : (digits : ℚ) = 2 * (digits / 2 : Nat) + (digits % 2 : Nat) := by
    exact_mod_cast (Nat.div_add_mod digits 2).symm
  rcases Nat.mod_two_eq_zero_or_one digits with even | odd
  · rw [even] at split
    rcases round with _ | _ <;> rcases sticky with _ | _ <;>
      simp only [Stands, ExtendedMantissa.shiftRightOne, even, bne_self_eq_false,
        Bool.or_false, Bool.or_true, Bool.or_self] at stands ⊢ <;>
      push_cast at split
    · rw [stands]
      linarith
    · constructor <;> linarith [stands.1, stands.2]
    · constructor <;> linarith
    · constructor <;> linarith [stands.1, stands.2]
  · have last : (digits % 2 != 0) = true := by simp [odd]
    rw [odd] at split
    rcases round with _ | _ <;> rcases sticky with _ | _ <;>
      simp only [Stands, ExtendedMantissa.shiftRightOne, last,
        Bool.or_false, Bool.or_true, Bool.or_self] at stands ⊢ <;>
      push_cast at split
    · rw [stands]
      linarith
    · constructor <;> linarith [stands.1, stands.2]
    · constructor <;> linarith
    · constructor <;> linarith [stands.1, stands.2]

theorem stands_shift {extended : ExtendedMantissa} {number : ℚ}
    (stands : Stands extended number) (count : Nat) :
    Stands (extended >>> count) (number / 2 ^ count) := by
  change Stands (count.repeat ExtendedMantissa.shiftRightOne extended) _
  induction count with
  | zero => simpa [Nat.repeat] using stands
  | succ count ih =>
      have step := stands_shift_one ih
      rw [div_div, ← pow_succ] at step
      exact step

theorem target_exponent (digits : Nat) (power : Int) :
    Format.binary32.targetExponent (totalExponent digits power) =
      max ((digits.log2 : Int) + power - 23) (-149) := by
  simp only [Format.targetExponent, totalExponent, Format.mantissaBits, Format.minExponent]
  omega

theorem shift_to_target_of_fits {digits : Nat} {power : Int} (fits : digits < 2 ^ 24)
    (floor : -149 ≤ power) :
    shiftToTargetExponent Format.binary32 digits power .exact =
      (⟨digits, false, false⟩, power) := by
  have short : digits.log2 ≤ 23 := by
    by_cases zero : digits = 0
    · simp [zero]
    · have := (Nat.log2_lt zero).mpr fits
      omega
  have amount :
      (Format.binary32.targetExponent (totalExponent digits power) - power).toNat = 0 := by
    rw [target_exponent]
    omega
  rw [shiftToTargetExponent, shiftToExponent, amount]
  simp [ExtendedMantissa.ofMantissaAndAccuracy, HShiftRight.hShiftRight, Nat.repeat]

theorem shift_to_target_of_carry {power : Int} (floor : -149 ≤ power) :
    shiftToTargetExponent Format.binary32 (2 ^ 24) power .exact =
      (⟨2 ^ 23, false, false⟩, power + 1) := by
  have amount :
      (Format.binary32.targetExponent (totalExponent (2 ^ 24) power) - power).toNat = 1 := by
    rw [target_exponent, Nat.log2_two_pow]
    omega
  rw [shiftToTargetExponent, shiftToExponent, amount]
  simp [ExtendedMantissa.ofMantissaAndAccuracy, HShiftRight.hShiftRight, Nat.repeat,
    ExtendedMantissa.shiftRightOne]

end EvidenceGrid.Binary32

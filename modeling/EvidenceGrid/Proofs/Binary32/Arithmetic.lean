import EvidenceGrid.Proofs.Binary32.Normal

/-!
The arithmetic of binary32 values as rounding of exact numbers. For finite
operands each operation computes the rounded exact result, and is finite exactly
when that fits the format. A finite result in turn shows that the operands were
finite, except for the divisor. Signs of zeros and the sign of an overflow are
not tracked.
-/

set_option autoImplicit false

namespace EvidenceGrid.Binary32

open Float.Model (Format UnpackedFloat totalExponent)
open Float.Model.UnpackedFloat

/-- The exact number of a finite value; zero for the others. -/
def number (value : Float32) : ℚ := unpackedNumber value.toModel.unpack

/-- A value that is the rounded exact number, unless that is too large. -/
structure Computes (result : Float32) (exact : ℚ) : Prop where
  finite_iff : result.isFinite = true ↔ |rounded exact| < 2 ^ 128
  number_eq : result.isFinite = true → number result = rounded exact

theorem canonical_value (value : Float32) : Canonical value.toModel.unpack :=
  (canonical_unpack value.toModel.toBits.toBitVec).1

theorem on_grid_of_canonical {value : UnpackedFloat} (canonical : Canonical value) :
    OnGrid (unpackedNumber value) := by
  cases value with
  | finite sign digits power positive =>
      obtain ⟨high, floor, -⟩ := canonical
      refine ⟨sign.apply digits, power, ?_, floor, rfl⟩
      rw [abs_le]
      cases sign <;> simp only [Sign.apply] <;> constructor <;> omega
  | _ => exact on_grid_zero

theorem on_grid_number (value : Float32) : OnGrid (number value) :=
  on_grid_of_canonical (canonical_value value)

theorem rounds_to_self {value : UnpackedFloat} (finite : value.isFinite = true)
    (canonical : Canonical value) : RoundsTo value (unpackedNumber value) :=
  ⟨finite, canonical, (rounded_of_on_grid (on_grid_of_canonical canonical)).symm⟩

theorem abs_number_lt_iff (sign : Sign) {digits : Nat} {power : Int} (positive : 0 < digits)
    (canonical : Canonical (.finite sign digits power positive)) :
    |unpackedNumber (.finite sign digits power positive)| < 2 ^ 128 ↔ power ≤ 104 := by
  obtain ⟨high, -, full⟩ := canonical
  have unit : (0 : ℚ) < 2 ^ power := zpow_pos (by norm_num) _
  have size : |unpackedNumber (.finite sign digits power positive)| = digits * 2 ^ power := by
    rw [unpackedNumber, sign_apply_cast, abs_mul, abs_of_pos unit]
    cases sign <;> simp [signFactor]
  rw [size]
  constructor
  · intro small
    by_contra large
    have many : 2 ^ 23 ≤ digits := full.resolve_right (by omega)
    have manyCast : (2 : ℚ) ^ 23 ≤ digits := by exact_mod_cast many
    have step : (2 : ℚ) ^ (105 : ℤ) ≤ 2 ^ power := zpow_le_zpow_right₀ (by norm_num) (by omega)
    have : (2 : ℚ) ^ 23 * 2 ^ (105 : ℤ) ≤ digits * 2 ^ power :=
      mul_le_mul manyCast step (by norm_num) (by positivity)
    norm_num at this small
    linarith
  · intro fits
    have highCast : (digits : ℚ) < 2 ^ 24 := by exact_mod_cast high
    have step : (2 : ℚ) ^ power ≤ 2 ^ (104 : ℤ) := zpow_le_zpow_right₀ (by norm_num) fits
    calc (digits : ℚ) * 2 ^ power < 2 ^ 24 * 2 ^ (104 : ℤ) :=
          mul_lt_mul highCast step unit (by norm_num)
      _ = 2 ^ 128 := by norm_num

theorem abs_number_lt {value : Float32} (finite : value.isFinite = true) :
    |number value| < 2 ^ 128 := by
  have canonical := canonical_unpack value.toModel.toBits.toBitVec
  unfold number
  change Float32.Model.isFinite value.toModel = true at finite
  rw [Float32.Model.isFinite] at finite
  change Canonical value.toModel.unpack ∧ _ at canonical
  generalize same : value.toModel.unpack = unpacked at finite canonical ⊢
  cases unpacked with
  | finite sign digits power positive =>
      exact (abs_number_lt_iff sign positive canonical.1).mpr
        (canonical.2 sign digits power positive same)
  | zero sign => norm_num [unpackedNumber]
  | infinity sign => cases finite
  | notANumber => cases finite

theorem pack_computes {result : UnpackedFloat} {exact : ℚ} (rounds : RoundsTo result exact) :
    Computes (.ofModel (.pack result)) exact := by
  obtain ⟨finite, canonical, value⟩ := rounds
  cases result with
  | finite sign digits power positive =>
      have unpacked : (Float32.Model.pack (.finite sign digits power positive)).unpack = _ :=
        unpack_pack_finite sign positive canonical
      have fits := abs_number_lt_iff sign positive canonical
      constructor
      · change (Float32.Model.pack _).unpack.isFinite = true ↔ _
        rw [unpacked, ← value, fits]
        split_ifs with small <;> simp [UnpackedFloat.isFinite, small]
      · intro packedFinite
        change (Float32.Model.pack _).unpack.isFinite = true at packedFinite
        change unpackedNumber (Float32.Model.pack _).unpack = _
        rw [unpacked] at packedFinite ⊢
        split_ifs at packedFinite ⊢ with small
        · exact value
        · cases packedFinite
  | zero sign =>
      have unpacked : (Float32.Model.pack (.zero sign)).unpack = .zero sign := by
        cases sign <;> rfl
      constructor
      · change (Float32.Model.pack _).unpack.isFinite = true ↔ _
        rw [unpacked, ← value]
        norm_num [UnpackedFloat.isFinite, unpackedNumber]
      · intro _
        change unpackedNumber (Float32.Model.pack _).unpack = _
        rw [unpacked]
        exact value
  | infinity sign => cases finite
  | notANumber => cases finite

/-! ## The operations on unpacked values -/

theorem sign_factor_neg (sign : Sign) : signFactor (-sign) = -signFactor sign := by
  cases sign
  · change (1 : ℚ) = - -1
    norm_num
  · rfl

theorem sign_factor_mul (left right : Sign) :
    signFactor (left * right) = signFactor left * signFactor right := by
  cases left <;> cases right
  · change (1 : ℚ) = -1 * -1
    norm_num
  · change (-1 : ℚ) = -1 * 1
    norm_num
  · change (-1 : ℚ) = 1 * -1
    norm_num
  · change (1 : ℚ) = 1 * 1
    norm_num

theorem sign_factor_div (left right : Sign) :
    signFactor (left / right) = signFactor left / signFactor right := by
  cases left <;> cases right
  · change (1 : ℚ) = -1 / -1
    norm_num
  · change (-1 : ℚ) = -1 / 1
    norm_num
  · change (-1 : ℚ) = 1 / -1
    norm_num
  · change (1 : ℚ) = 1 / 1
    norm_num

theorem aligned_number (sign : Sign) (digits : Nat) {power least : Int} (lower : least ≤ power) :
    ((sign.apply ((decreaseExponent digits power least).1 : ℤ) : ℤ) : ℚ) * 2 ^ least =
      (sign.apply digits : ℤ) * 2 ^ power := by
  have same := decrease_exponent_number digits power least
  have reached : (decreaseExponent digits power least).2 = least := by
    simp only [decreaseExponent]
    omega
  rw [reached] at same
  rw [sign_apply_cast, sign_apply_cast, mul_assoc, mul_assoc]
  push_cast
  rw [same]

theorem add_rounds {left right : UnpackedFloat} (leftFinite : left.isFinite = true)
    (rightFinite : right.isFinite = true) (leftCanonical : Canonical left)
    (rightCanonical : Canonical right) :
    RoundsTo (UnpackedFloat.add Format.binary32 left right)
      (unpackedNumber left + unpackedNumber right) := by
  cases left with
  | infinity _ => cases leftFinite
  | notANumber => cases leftFinite
  | zero sign =>
      cases right with
      | infinity _ => cases rightFinite
      | notANumber => cases rightFinite
      | zero other =>
          rw [UnpackedFloat.add]
          split_ifs <;>
            exact ⟨rfl, trivial, by simp only [unpackedNumber, add_zero, rounded_zero]⟩
      | finite other digits power positive =>
          have own := rounds_to_self rightFinite rightCanonical
          rwa [← zero_add (unpackedNumber (.finite other digits power positive))] at own
  | finite sign digits power positive =>
      cases right with
      | infinity _ => cases rightFinite
      | notANumber => cases rightFinite
      | zero other =>
          have own := rounds_to_self leftFinite leftCanonical
          rwa [← add_zero (unpackedNumber (.finite sign digits power positive))] at own
      | finite other digits' power' positive' =>
          have sum := normalize_rounds
            (sign.apply (decreaseExponent digits power (min power power')).1 +
              other.apply (decreaseExponent digits' power' (min power power')).1)
            (min power power') .positive
          rw [Int.cast_add, add_mul, aligned_number sign digits (min_le_left _ _),
            aligned_number other digits' (min_le_right _ _)] at sum
          exact sum

theorem sub_rounds {left right : UnpackedFloat} (leftFinite : left.isFinite = true)
    (rightFinite : right.isFinite = true) (leftCanonical : Canonical left)
    (rightCanonical : Canonical right) :
    RoundsTo (UnpackedFloat.sub Format.binary32 left right)
      (unpackedNumber left - unpackedNumber right) := by
  cases left with
  | infinity _ => cases leftFinite
  | notANumber => cases leftFinite
  | zero sign =>
      cases right with
      | infinity _ => cases rightFinite
      | notANumber => cases rightFinite
      | zero other =>
          rw [UnpackedFloat.sub]
          split_ifs <;>
            exact ⟨rfl, trivial, by simp only [unpackedNumber, sub_zero, rounded_zero]⟩
      | finite other digits power positive =>
          have opposite : unpackedNumber (.zero sign) -
              unpackedNumber (.finite other digits power positive) =
              unpackedNumber (.finite (-other) digits power positive) := by
            simp only [unpackedNumber, sign_apply_cast, sign_factor_neg]
            ring
          rw [opposite]
          exact rounds_to_self rfl rightCanonical
  | finite sign digits power positive =>
      cases right with
      | infinity _ => cases rightFinite
      | notANumber => cases rightFinite
      | zero other =>
          have own := rounds_to_self leftFinite leftCanonical
          rwa [← sub_zero (unpackedNumber (.finite sign digits power positive))] at own
      | finite other digits' power' positive' =>
          have difference := normalize_rounds
            (sign.apply (decreaseExponent digits power (min power power')).1 -
              other.apply (decreaseExponent digits' power' (min power power')).1)
            (min power power') .positive
          rw [Int.cast_sub, sub_mul, aligned_number sign digits (min_le_left _ _),
            aligned_number other digits' (min_le_right _ _)] at difference
          exact difference

theorem mul_rounds {left right : UnpackedFloat} (leftFinite : left.isFinite = true)
    (rightFinite : right.isFinite = true) (leftCanonical : Canonical left)
    (rightCanonical : Canonical right) :
    RoundsTo (UnpackedFloat.mul Format.binary32 left right)
      (unpackedNumber left * unpackedNumber right) := by
  cases left with
  | infinity _ => cases leftFinite
  | notANumber => cases leftFinite
  | zero sign =>
      cases right with
      | infinity _ => cases rightFinite
      | notANumber => cases rightFinite
      | zero other =>
          refine ⟨rfl, trivial, ?_⟩
          simp only [unpackedNumber, zero_mul, rounded_zero]
          rfl
      | finite other digits power positive =>
          exact ⟨rfl, trivial, by simp only [unpackedNumber, zero_mul, rounded_zero]; rfl⟩
  | finite sign digits power positive =>
      cases right with
      | infinity _ => cases rightFinite
      | notANumber => cases rightFinite
      | zero other =>
          refine ⟨rfl, trivial, ?_⟩
          simp only [unpackedNumber, mul_zero, rounded_zero]
          rfl
      | finite other digits' power' positive' =>
          -- Either significand is full, or both exponents are the least one.
          have enough : 2 ^ 23 ≤ digits * digits' ∨ power + power' ≤ -149 := by
            rcases leftCanonical.2.2 with full | least
            · exact Or.inl (full.trans (Nat.le_mul_of_pos_right digits positive'))
            · rcases rightCanonical.2.2 with full | least'
              · exact Or.inl (full.trans (Nat.le_mul_of_pos_left digits' positive))
              · omega
          have some : (0 : ℚ) < (digits * digits' : Nat) := by
            exact_mod_cast Nat.mul_pos positive positive'
          have product := round_with_accuracy_rounds (sign * other)
            (stands_exact (digits * digits')) some enough
          have exact : signFactor (sign * other) *
                (((digits * digits' : Nat) : ℚ) * 2 ^ (power + power')) =
              unpackedNumber (.finite sign digits power positive) *
                unpackedNumber (.finite other digits' power' positive') := by
            rw [unpackedNumber, unpackedNumber, sign_apply_cast, sign_apply_cast, sign_factor_mul,
              zpow_add₀ (by norm_num : (2 : ℚ) ≠ 0)]
            push_cast
            ring
          rw [exact] at product
          exact product

/-- The quotient of significands with the accuracy of its remainder stands for
the exact quotient. -/
theorem stands_quotient (digits : Nat) {divisor : Nat} (positive : 0 < divisor) :
    Stands (ExtendedMantissa.ofMantissaAndAccuracy (digits / divisor)
      (accuracyOfFraction (digits % divisor) divisor)) ((digits : ℚ) / divisor) := by
  have divisorPositive : (0 : ℚ) < divisor := by exact_mod_cast positive
  have restBelow : ((digits % divisor : Nat) : ℚ) < divisor := by
    exact_mod_cast Nat.mod_lt digits positive
  have split : (digits : ℚ) / divisor =
      (digits / divisor : Nat) + ((digits % divisor : Nat) : ℚ) / divisor := by
    have whole : (digits : ℚ) = divisor * (digits / divisor : Nat) + (digits % divisor : Nat) := by
      exact_mod_cast (Nat.div_add_mod digits divisor).symm
    rw [div_eq_iff divisorPositive.ne', add_mul, div_mul_cancel₀ _ divisorPositive.ne',
      mul_comm _ (divisor : ℚ)]
    exact whole
  have partBelow : ((digits % divisor : Nat) : ℚ) / divisor < 1 := by
    rwa [div_lt_one divisorPositive]
  rw [accuracyOfFraction]
  split_ifs with none
  · rw [none] at split
    simp only [ExtendedMantissa.ofMantissaAndAccuracy, Stands]
    rw [split]
    simp
  · have partPositive : 0 < ((digits % divisor : Nat) : ℚ) / divisor := by
      have : 0 < digits % divisor := Nat.pos_of_ne_zero none
      exact div_pos (by exact_mod_cast this) divisorPositive
    rcases lt_trichotomy (2 * (digits % divisor)) divisor with low | half | high
    · rw [Nat.compare_eq_lt.mpr low]
      have partLow : ((digits % divisor : Nat) : ℚ) / divisor < 1 / 2 := by
        rw [div_lt_div_iff₀ divisorPositive (by norm_num)]
        have : ((2 * (digits % divisor) : Nat) : ℚ) < divisor := by exact_mod_cast low
        push_cast at this
        linarith
      simp only [ExtendedMantissa.ofMantissaAndAccuracy, Stands]
      constructor <;> linarith
    · rw [Nat.compare_eq_eq.mpr half]
      have partHalf : ((digits % divisor : Nat) : ℚ) / divisor = 1 / 2 := by
        rw [div_eq_div_iff divisorPositive.ne' (by norm_num)]
        have : ((2 * (digits % divisor) : Nat) : ℚ) = divisor := by exact_mod_cast half
        push_cast at this
        linarith
      simp only [ExtendedMantissa.ofMantissaAndAccuracy, Stands]
      linarith
    · rw [Nat.compare_eq_gt.mpr high]
      have partHigh : 1 / 2 < ((digits % divisor : Nat) : ℚ) / divisor := by
        rw [div_lt_div_iff₀ (by norm_num) divisorPositive]
        have : (divisor : ℚ) < ((2 * (digits % divisor) : Nat) : ℚ) := by exact_mod_cast high
        push_cast at this
        linarith
      simp only [ExtendedMantissa.ofMantissaAndAccuracy, Stands]
      constructor <;> linarith

theorem quotient_digits {digits divisor count : Nat} (positive : 0 < digits)
    (divisorPositive : 0 < divisor) (reach : divisor.log2 + 24 ≤ digits.log2 + count) :
    2 ^ 23 ≤ (digits <<< count) / divisor := by
  rw [Nat.le_div_iff_mul_le divisorPositive, Nat.shiftLeft_eq]
  calc 2 ^ 23 * divisor ≤ 2 ^ 23 * 2 ^ (divisor.log2 + 1) :=
        Nat.mul_le_mul_left _ Nat.lt_log2_self.le
    _ = 2 ^ (divisor.log2 + 24) := by
        rw [← Nat.pow_add]
        congr 1
        omega
    _ ≤ 2 ^ (digits.log2 + count) := Nat.pow_le_pow_right (by norm_num) reach
    _ = 2 ^ digits.log2 * 2 ^ count := Nat.pow_add _ _ _
    _ ≤ digits * 2 ^ count := Nat.mul_le_mul_right _ (Nat.log2_self_le positive.ne')

theorem div_rounds {left right : UnpackedFloat} (leftFinite : left.isFinite = true)
    (rightFinite : right.isFinite = true) (nonzero : unpackedNumber right ≠ 0) :
    RoundsTo (UnpackedFloat.div Format.binary32 left right)
      (unpackedNumber left / unpackedNumber right) := by
  cases right with
  | infinity _ => cases rightFinite
  | notANumber => cases rightFinite
  | zero other => exact absurd rfl nonzero
  | finite other divisor power' positive' =>
      cases left with
      | infinity _ => cases leftFinite
      | notANumber => cases leftFinite
      | zero sign =>
          exact ⟨rfl, trivial, by simp only [unpackedNumber, zero_div, rounded_zero]; rfl⟩
      | finite sign digits power positive =>
          rw [UnpackedFloat.div, divCore]
          set target := min (power - power') (Format.binary32.targetExponent
            (totalExponent digits power - totalExponent divisor power')) with targetDef
          set count := (power - power' - target).toNat with countDef
          simp only [Format.targetExponent, totalExponent, Format.mantissaBits,
            Format.minExponent] at targetDef
          -- The shift leaves at least 24 digits in the quotient.
          have enough : 2 ^ 23 ≤ (digits <<< count) / divisor ∨ target ≤ -149 := by
            by_cases least : target ≤ -149
            · exact Or.inr least
            · left
              exact quotient_digits positive positive' (by omega)
          have divisorPositive : (0 : ℚ) < divisor := by exact_mod_cast positive'
          have quotientPositive : (0 : ℚ) < ((digits <<< count : Nat) : ℚ) / divisor := by
            have : 0 < digits <<< count := by
              rw [Nat.shiftLeft_eq]
              exact Nat.mul_pos positive (Nat.two_pow_pos _)
            exact div_pos (by exact_mod_cast this) divisorPositive
          have quotient := round_with_accuracy_rounds (sign / other)
            (stands_quotient (digits <<< count) positive') quotientPositive enough
          have exact : signFactor (sign / other) *
              (((digits <<< count : Nat) : ℚ) / divisor * 2 ^ target) =
              unpackedNumber (.finite sign digits power positive) /
                unpackedNumber (.finite other divisor power' positive') := by
            have unit : (2 : ℚ) ^ count * 2 ^ target = 2 ^ power / 2 ^ power' := by
              rw [← zpow_natCast, ← zpow_add₀ (by norm_num : (2 : ℚ) ≠ 0),
                ← zpow_sub₀ (by norm_num : (2 : ℚ) ≠ 0)]
              congr 1
              omega
            rw [unpackedNumber, unpackedNumber, sign_apply_cast, sign_apply_cast,
              sign_factor_div, Nat.shiftLeft_eq]
            push_cast
            calc signFactor sign / signFactor other *
                  ((digits : ℚ) * 2 ^ count / divisor * 2 ^ target)
                = signFactor sign / signFactor other * (digits / divisor) *
                    (2 ^ count * 2 ^ target) := by ring
              _ = signFactor sign / signFactor other * (digits / divisor) *
                    (2 ^ power / 2 ^ power') := by rw [unit]
              _ = signFactor sign * digits * 2 ^ power /
                    (signFactor other * divisor * 2 ^ power') := by ring
          rw [exact] at quotient
          exact quotient

/-! ## Operands of finite results -/

section Finite

variable {first second : UnpackedFloat}

theorem finite_of_pack {result : UnpackedFloat}
    (finite : (Float32.Model.pack result).unpack.isFinite = true) : result.isFinite = true := by
  cases result with
  | infinity sign => cases sign <;> cases finite
  | notANumber => cases finite
  | zero sign => rfl
  | finite sign digits power positive => rfl

theorem finite_operands_of_sum
    (finite : (UnpackedFloat.add Format.binary32 first second).isFinite = true) :
    first.isFinite = true ∧ second.isFinite = true := by
  cases first <;> cases second <;>
    first
      | exact ⟨rfl, rfl⟩
      | cases finite
      | (rw [UnpackedFloat.add] at finite; split_ifs at finite <;> cases finite)

theorem finite_operands_of_difference
    (finite : (UnpackedFloat.sub Format.binary32 first second).isFinite = true) :
    first.isFinite = true ∧ second.isFinite = true := by
  cases first <;> cases second <;>
    first
      | exact ⟨rfl, rfl⟩
      | cases finite
      | (rw [UnpackedFloat.sub] at finite; split_ifs at finite <;> cases finite)

theorem finite_operands_of_product
    (finite : (UnpackedFloat.mul Format.binary32 first second).isFinite = true) :
    first.isFinite = true ∧ second.isFinite = true := by
  cases first <;> cases second <;> first | exact ⟨rfl, rfl⟩ | cases finite

theorem finite_dividend_of_quotient
    (finite : (UnpackedFloat.div Format.binary32 first second).isFinite = true) :
    first.isFinite = true := by
  cases first <;> cases second <;> first | exact rfl | cases finite

end Finite

/-! ## The operations on values -/

section Operations

variable {left right : Float32}

theorem add_computes (leftFinite : left.isFinite = true) (rightFinite : right.isFinite = true) :
    Computes (left + right) (number left + number right) :=
  pack_computes
    (add_rounds leftFinite rightFinite (canonical_value left) (canonical_value right))

theorem sub_computes (leftFinite : left.isFinite = true) (rightFinite : right.isFinite = true) :
    Computes (left - right) (number left - number right) :=
  pack_computes
    (sub_rounds leftFinite rightFinite (canonical_value left) (canonical_value right))

theorem mul_computes (leftFinite : left.isFinite = true) (rightFinite : right.isFinite = true) :
    Computes (left * right) (number left * number right) :=
  pack_computes
    (mul_rounds leftFinite rightFinite (canonical_value left) (canonical_value right))

theorem div_computes (leftFinite : left.isFinite = true) (rightFinite : right.isFinite = true)
    (nonzero : number right ≠ 0) : Computes (left / right) (number left / number right) :=
  pack_computes (div_rounds leftFinite rightFinite nonzero)

theorem finite_operands_of_add (finite : (left + right).isFinite = true) :
    left.isFinite = true ∧ right.isFinite = true :=
  finite_operands_of_sum (finite_of_pack finite)

theorem finite_operands_of_sub (finite : (left - right).isFinite = true) :
    left.isFinite = true ∧ right.isFinite = true :=
  finite_operands_of_difference (finite_of_pack finite)

theorem finite_operands_of_mul (finite : (left * right).isFinite = true) :
    left.isFinite = true ∧ right.isFinite = true :=
  finite_operands_of_product (finite_of_pack finite)

theorem finite_dividend_of_div (finite : (left / right).isFinite = true) : left.isFinite = true :=
  finite_dividend_of_quotient (finite_of_pack finite)

end Operations

end EvidenceGrid.Binary32

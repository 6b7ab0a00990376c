import EvidenceGrid.Proofs.Binary32.Odds
import EvidenceGrid.Proofs.SensorModel.Bounds

/-!
The published value of a belief. What is asked of the exponential function is its order, that it
is not negative, and its value at zero. Every step from a belief to its value then keeps the
order, so the value of one half, which is 50, lies between the values of all beliefs on the two
sides of zero. The thresholds of a usable model lie on these sides.
-/

set_option autoImplicit false

namespace EvidenceGrid

open Binary32

/-! ## Bytes -/

namespace Belief

theorem number_scale : number 254 = 254 := by
  have unpacked : (254 : Float32).toModel.unpack =
      .finite .positive 16646144 (-16) (by norm_num) := rfl
  rw [number, unpacked]
  norm_num [unpackedNumber, Float.Model.UnpackedFloat.Sign.apply]

theorem scale_in_order : (0 : Float32) ≤ 254 := by
  rw [le_iff rfl rfl, number_zero, number_scale]
  norm_num

theorem scaled_byte_le (value : Float32) : (clamp 0 254 value).toUInt8.toNat ≤ 254 := by
  have zeroFinite : (0 : Float32).isFinite = true := rfl
  have scaleFinite : (254 : Float32).isFinite = true := rfl
  cases nan : value.isNaN with
  | true =>
      -- A NaN passes both bounds, and becomes the byte zero.
      rw [clamp]
      split_ifs with beneath beyond
      · decide +kernel
      · decide +kernel
      · rw [to_uint8_nan nan]
        decide
  | false =>
      obtain ⟨some, low, high⟩ := clamp_between zeroFinite scaleFinite scale_in_order nan
      have finite := finite_of_between some zeroFinite scaleFinite low high
      rw [le_iff finite scaleFinite, number_scale] at high
      rw [to_uint8_value finite]
      exact (min_le_left _ _).trans (Nat.floor_le_of_le high)

/-- The place of a probability on the scale of bytes, counted from the byte of a free cell. -/
def level (probability : Float32) : UInt8 := (clamp 0 254 (nearest (probability * 254))).toUInt8

section Level

variable {probability more : Float32}

theorem level_value (finite : probability.isFinite = true) (nonneg : 0 ≤ number probability)
    (small : number probability ≤ 1) :
    ((level probability).toNat : ℤ) = roundAway (rounded (number probability * 254)) := by
  have scaleFinite : (254 : Float32).isFinite = true := rfl
  have scaleGrid : OnGrid 254 := by exact_mod_cast on_grid_int (by norm_num : |(254 : ℤ)| ≤ 2 ^ 24)
  have low := rounded_mono (show 0 ≤ number probability * 254 by linarith)
  have high := rounded_mono (show number probability * 254 ≤ 254 by linarith)
  rw [rounded_zero] at low
  rw [rounded_of_on_grid scaleGrid] at high
  have product := mul_computes finite scaleFinite
  rw [number_scale] at product
  have productFinite : (probability * 254).isFinite = true :=
    product.finite_iff.mpr (by rw [abs_of_nonneg low]; linarith)
  obtain ⟨nearestFinite, nearestNumber⟩ := nearest_value productFinite
  rw [product.number_eq productFinite] at nearestNumber
  have bottom := round_away_mono low
  have top := round_away_mono high
  have bottomWhole := round_away_int 0
  have topWhole := round_away_int 254
  rw [Int.cast_zero] at bottomWhole
  rw [Int.cast_ofNat] at topWhole
  rw [bottomWhole] at bottom
  rw [topWhole] at top
  set whole := roundAway (rounded (number probability * 254))
  have notBelow : ¬nearest (probability * 254) < 0 := by
    rw [lt_iff nearestFinite rfl, nearestNumber, number_zero, not_lt]
    exact_mod_cast bottom
  have notAbove : ¬254 < nearest (probability * 254) := by
    rw [lt_iff scaleFinite nearestFinite, nearestNumber, number_scale, not_lt]
    exact_mod_cast top
  have floor : ⌊(whole : ℚ)⌋₊ = whole.toNat := by rw [← Int.floor_toNat, Int.floor_intCast]
  rw [level, clamp, if_neg notBelow, if_neg notAbove, to_uint8_value nearestFinite, nearestNumber,
    floor]
  omega

theorem level_mono (finite : probability.isFinite = true) (moreFinite : more.isFinite = true)
    (nonneg : 0 ≤ number probability) (ordered : number probability ≤ number more)
    (small : number more ≤ 1) : (level probability).toNat ≤ (level more).toNat := by
  have raised := round_away_mono (rounded_mono
    (mul_le_mul_of_nonneg_right ordered (by norm_num : (0 : ℚ) ≤ 254)))
  rw [← level_value finite nonneg (ordered.trans small),
    ← level_value moreFinite (nonneg.trans ordered) small] at raised
  exact_mod_cast raised

theorem level_half : (level 0.5).toNat = 127 := by decide +kernel

end Level

/-! ## Published values -/

section Known

variable (exp : Float32 → Float32) {belief : Belief}

theorem confidence_of_known (known : (belief.logOdds == 0) = false) :
    belief.confidenceBy exp = Confidence.free + level (belief.probabilityBy exp) := by
  rw [confidenceBy, isUnknown, known, if_neg Bool.false_ne_true]
  rfl

theorem confidence_value (known : (belief.logOdds == 0) = false) :
    (belief.confidenceBy exp).toNat =
      Confidence.free.toNat + (level (belief.probabilityBy exp)).toNat := by
  have room : (level (belief.probabilityBy exp)).toNat ≤ 254 := scaled_byte_le _
  have free : Confidence.free.toNat = 1 := rfl
  rw [confidence_of_known exp known, UInt8.toNat_add, Nat.mod_eq_of_lt (by omega)]

theorem cost_value (known : (belief.logOdds == 0) = false) :
    (belief.costBy exp).toInt =
      (((level (belief.probabilityBy exp)).toNat * 100 + 127) / 254 : ℕ) := by
  have byte := confidence_value exp known
  have room : (level (belief.probabilityBy exp)).toNat ≤ 254 := scaled_byte_le _
  have free : Confidence.free.toNat = 1 := rfl
  have marked : belief.confidenceBy exp ≠ Confidence.unknown := by
    intro unknown
    rw [unknown, show Confidence.unknown.toNat = 0 from rfl] at byte
    omega
  rw [costBy, Cost.ofConfidence, if_neg marked, byte, free, Nat.add_sub_cancel_left,
    Int8.toInt_ofNat_of_lt (by omega)]

theorem cost_between (known : (belief.logOdds == 0) = false) :
    0 ≤ (belief.costBy exp).toInt ∧ (belief.costBy exp).toInt ≤ 100 := by
  have room : (level (belief.probabilityBy exp)).toNat ≤ 254 := scaled_byte_le _
  rw [cost_value exp known]
  omega

theorem cost_unknown_iff : belief.costBy exp = Cost.unknown ↔ (belief.logOdds == 0) = true := by
  cases unknown : belief.logOdds == 0 with
  | true => simp [costBy, confidenceBy, isUnknown, unknown, Cost.ofConfidence]
  | false =>
      have nonneg := (cost_between exp unknown).1
      simp only [Bool.false_eq_true, iff_false]
      intro same
      rw [same] at nonneg
      exact absurd nonneg (by decide)

end Known

/-! ## Probabilities -/

/-- What is asked of an exponential function. Its values are compared with zero, so they are not
NaN where the argument is not. -/
structure Exponential (exp : Float32 → Float32) : Prop where
  mono : ∀ low high, low ≤ high → exp low ≤ exp high
  nonneg : ∀ value : Float32, value.isNaN = false → 0 ≤ exp value
  zero : exp 0 = 1

section Probability

variable {exp : Float32 → Float32} {belief left right : Belief}

theorem odds_value (lawful : Exponential exp) (isNumber : belief.logOdds.isNaN = false) :
    (1 + exp (-belief.logOdds)).isNaN = false ∧ 1 ≤ extended (1 + exp (-belief.logOdds)) := by
  have nonneg := lawful.nonneg _ (extended_neg isNumber).1
  obtain ⟨zeroSome, some⟩ := not_nan_of_le nonneg
  rw [le_iff_extended zeroSome some, extended_zero] at nonneg
  exact ⟨not_nan_add_left rfl some, one_le_one_add some nonneg⟩

theorem probability_bounds (lawful : Exponential exp) (isNumber : belief.logOdds.isNaN = false) :
    (belief.probabilityBy exp).isFinite = true ∧ 0 ≤ number (belief.probabilityBy exp) ∧
      number (belief.probabilityBy exp) ≤ 1 := by
  obtain ⟨some, large⟩ := odds_value lawful isNumber
  exact reciprocal_bounds some large

theorem probability_of_exp_le (lawful : Exponential exp) (leftNumber : left.logOdds.isNaN = false)
    (rightNumber : right.logOdds.isNaN = false)
    (ordered : exp (-right.logOdds) ≤ exp (-left.logOdds)) :
    number (left.probabilityBy exp) ≤ number (right.probabilityBy exp) := by
  obtain ⟨rightSome, leftSome⟩ := not_nan_of_le ordered
  rw [le_iff_extended rightSome leftSome] at ordered
  obtain ⟨rightOdds, large⟩ := odds_value lawful rightNumber
  exact reciprocal_antitone rightOdds large (odds_value lawful leftNumber).1
    (one_add_mono rightSome leftSome ordered)

theorem probability_mono (lawful : Exponential exp) (ordered : left.logOdds ≤ right.logOdds) :
    number (left.probabilityBy exp) ≤ number (right.probabilityBy exp) := by
  obtain ⟨leftNumber, rightNumber⟩ := not_nan_of_le ordered
  exact probability_of_exp_le lawful leftNumber rightNumber
    (lawful.mono _ _ (neg_le_neg_values ordered))

theorem probability_neg_zero (lawful : Exponential exp) :
    (⟨-0⟩ : Belief).probabilityBy exp = 0.5 := by
  have opposite : -(-0 : Float32) = 0 := by decide +kernel
  change 1 / (1 + exp (-(-0))) = 0.5
  rw [opposite, lawful.zero]
  decide +kernel

theorem level_ordered (lawful : Exponential exp) (ordered : left.logOdds ≤ right.logOdds) :
    (level (left.probabilityBy exp)).toNat ≤ (level (right.probabilityBy exp)).toNat := by
  obtain ⟨leftNumber, rightNumber⟩ := not_nan_of_le ordered
  obtain ⟨leftFinite, nonneg, -⟩ := probability_bounds lawful leftNumber
  obtain ⟨rightFinite, -, small⟩ := probability_bounds lawful rightNumber
  exact level_mono leftFinite rightFinite nonneg (probability_mono lawful ordered) small

theorem cost_mono (lawful : Exponential exp) (leftKnown : (left.logOdds == 0) = false)
    (rightKnown : (right.logOdds == 0) = false) (ordered : left.logOdds ≤ right.logOdds) :
    left.costBy exp ≤ right.costBy exp := by
  have levels := level_ordered lawful ordered
  rw [Int8.le_iff_toInt_le, cost_value exp leftKnown, cost_value exp rightKnown]
  omega

theorem known_of_extended (isNumber : belief.logOdds.isNaN = false)
    (apart : extended belief.logOdds ≠ 0) : (belief.logOdds == 0) = false := by
  rw [Bool.eq_false_iff, Ne, beq_iff_extended isNumber rfl, extended_zero]
  exact apart

theorem half_le_cost (lawful : Exponential exp) (isNumber : belief.logOdds.isNaN = false)
    (positive : 0 < belief.logOdds) : 50 ≤ belief.costBy exp := by
  obtain ⟨zeroNumber, zero⟩ := extended_neg_zero
  rw [lt_iff_extended rfl isNumber, extended_zero] at positive
  have ordered : -0 ≤ belief.logOdds := by
    rw [le_iff_extended zeroNumber isNumber, zero]
    exact positive.le
  have levels := @level_ordered exp ⟨-0⟩ belief lawful ordered
  rw [probability_neg_zero lawful, level_half] at levels
  rw [Int8.le_iff_toInt_le, cost_value exp (known_of_extended isNumber positive.ne')]
  change (50 : ℤ) ≤ _
  omega

theorem cost_le_half (lawful : Exponential exp) (isNumber : belief.logOdds.isNaN = false)
    (negative : belief.logOdds < 0) : 0 ≤ belief.costBy exp ∧ belief.costBy exp ≤ 50 := by
  obtain ⟨zeroNumber, zero⟩ := extended_neg_zero
  rw [lt_iff_extended isNumber rfl, extended_zero] at negative
  have ordered : belief.logOdds ≤ -0 := by
    rw [le_iff_extended isNumber zeroNumber, zero]
    exact negative.le
  have levels := @level_ordered exp belief ⟨-0⟩ lawful ordered
  rw [probability_neg_zero lawful, level_half] at levels
  rw [Int8.le_iff_toInt_le, Int8.le_iff_toInt_le,
    cost_value exp (known_of_extended isNumber negative.ne)]
  change (0 : ℤ) ≤ _ ∧ _ ≤ (50 : ℤ)
  omega

end Probability

end Belief

/-! ## Thresholds -/

namespace SensorModel

variable {model : SensorModel} {belief : Belief}

theorem positive_of_occupied (usable : model.Usable) (seen : model.classify belief = .occupied) :
    belief.logOdds.isNaN = false ∧ 0 < belief.logOdds := by
  rw [classify] at seen
  split_ifs at seen with reached
  obtain ⟨some, isNumber⟩ := not_nan_of_le reached
  rw [le_iff_extended some isNumber] at reached
  rw [lt_iff_extended rfl isNumber, extended_zero]
  exact ⟨isNumber, usable.occupied_extended.2.trans_le reached⟩

theorem negative_of_free (usable : model.Usable) (seen : model.classify belief = .free) :
    belief.logOdds.isNaN = false ∧ belief.logOdds < 0 := by
  rw [classify] at seen
  split_ifs at seen with missed reached
  obtain ⟨isNumber, some⟩ := not_nan_of_le reached
  rw [le_iff_extended isNumber some] at reached
  rw [lt_iff_extended isNumber rfl, extended_zero]
  exact ⟨isNumber, reached.trans_lt usable.free_extended.2⟩

theorem unknown_of_zero (usable : model.Usable) (zero : (belief.logOdds == 0) = true) :
    model.classify belief = .unknown := by
  cases seen : model.classify belief with
  | unknown => rfl
  | occupied =>
      obtain ⟨isNumber, positive⟩ := positive_of_occupied usable seen
      rw [beq_iff_extended isNumber rfl] at zero
      rw [lt_iff_extended rfl isNumber, zero] at positive
      exact absurd positive (lt_irrefl _)
  | free =>
      obtain ⟨isNumber, negative⟩ := negative_of_free usable seen
      rw [beq_iff_extended isNumber rfl] at zero
      rw [lt_iff_extended isNumber rfl, zero] at negative
      exact absurd negative (lt_irrefl _)

end SensorModel

namespace Belief

/-- What is published of a belief contradicts neither the belief nor what a usable model
classifies it as, whichever lawful exponential function the probability is made with. It is the
unknown value at zero only, of either sign, and from 0 to 100 and in the order of the beliefs
elsewhere; the byte behind it is a sum that does not overflow. A usable model calls a cell
occupied only at 50 or more, and free only at 50 or less. -/
theorem cost_agrees {exp : Float32 → Float32} (lawful : Exponential exp) :
    (∀ belief : Belief,
      (belief.costBy exp = Cost.unknown ↔ (belief.logOdds == 0) = true) ∧
      ((belief.logOdds == 0) = false →
        0 ≤ belief.costBy exp ∧ belief.costBy exp ≤ 100 ∧
        belief.confidenceBy exp = Confidence.free + level (belief.probabilityBy exp) ∧
        Confidence.free.toNat + (level (belief.probabilityBy exp)).toNat < 2 ^ 8)) ∧
    (∀ left right : Belief, (left.logOdds == 0) = false → (right.logOdds == 0) = false →
      left.logOdds ≤ right.logOdds → left.costBy exp ≤ right.costBy exp) ∧
    ∀ (model : SensorModel) (belief : Belief), model.validate = .ok () →
      (model.classify belief = .occupied → 50 ≤ belief.costBy exp) ∧
      (model.classify belief = .free → 0 ≤ belief.costBy exp ∧ belief.costBy exp ≤ 50) ∧
      (belief.costBy exp = Cost.unknown → model.classify belief = .unknown) := by
  refine ⟨fun belief => ⟨cost_unknown_iff exp, fun known => ?_⟩,
    fun left right leftKnown rightKnown => cost_mono lawful leftKnown rightKnown,
    fun model belief sound => ⟨?_, ?_, ?_⟩⟩
  · obtain ⟨low, high⟩ := cost_between exp known
    have room : (level (belief.probabilityBy exp)).toNat ≤ 254 := scaled_byte_le _
    have free : Confidence.free.toNat = 1 := rfl
    exact ⟨Int8.le_iff_toInt_le.mpr low, Int8.le_iff_toInt_le.mpr high,
      confidence_of_known exp known, by omega⟩
  · intro seen
    obtain ⟨isNumber, positive⟩ :=
      SensorModel.positive_of_occupied ((SensorModel.validate_ok_iff model).mp sound) seen
    exact half_le_cost lawful isNumber positive
  · intro seen
    obtain ⟨isNumber, negative⟩ :=
      SensorModel.negative_of_free ((SensorModel.validate_ok_iff model).mp sound) seen
    exact cost_le_half lawful isNumber negative
  · intro published
    exact SensorModel.unknown_of_zero ((SensorModel.validate_ok_iff model).mp sound)
      ((cost_unknown_iff exp).mp published)

/-- The exponential of values so large or so near to zero that rounding leaves nothing of them
but zero, one and infinity. -/
def steepExp (value : Float32) : Float32 :=
  if value ≤ -104 then 0 else if 89 ≤ value then 1 / 0 else 1

theorem steep_exp_lawful : Exponential steepExp := by
  have nonneg (value : Float32) : 0 ≤ steepExp value := by
    rw [steepExp]
    split_ifs <;> decide +kernel
  refine ⟨fun low high ordered => ?_, fun value _ => nonneg value, by decide +kernel⟩
  by_cases fromTop : 89 ≤ low
  · have highTop : 89 ≤ high := le_trans_values fromTop ordered
    have lowNot : ¬low ≤ -104 := fun below =>
      absurd (le_trans_values fromTop below) (by decide +kernel)
    have highNot : ¬high ≤ -104 := fun below =>
      absurd (le_trans_values highTop below) (by decide +kernel)
    rw [steepExp, steepExp, if_neg lowNot, if_neg highNot, if_pos fromTop, if_pos highTop]
    decide +kernel
  · by_cases toBottom : high ≤ -104
    · rw [steepExp, if_pos (le_trans_values ordered toBottom)]
      exact nonneg high
    · rw [steepExp, steepExp, if_neg fromTop, if_neg toBottom]
      split_ifs <;> decide +kernel

theorem cost_agrees_at_ends :
    let exp := steepExp
    let model := SensorModel.standard
    Exponential exp ∧ model.validate = .ok () ∧
      (⟨104⟩ : Belief).costBy exp = 100 ∧ (⟨-104⟩ : Belief).costBy exp = 0 ∧
      (⟨1e-8⟩ : Belief).costBy exp = 50 ∧ model.classify ⟨1e-8⟩ = .unknown ∧
      ((⟨1e-8⟩ : Belief).costBy exp = Cost.unknown ↔ ((1e-8 : Float32) == 0) = true) ∧
      (⟨-104⟩ : Belief).costBy exp ≤ (⟨1e-8⟩ : Belief).costBy exp ∧
      50 ≤ (⟨104⟩ : Belief).costBy exp ∧ (⟨-104⟩ : Belief).costBy exp ≤ 50 := by
  intro exp model
  have sound : model.validate = .ok () := by decide +kernel
  obtain ⟨values, ordered, classified⟩ := cost_agrees steep_exp_lawful
  refine ⟨steep_exp_lawful, sound, by decide +kernel, by decide +kernel, by decide +kernel,
    by decide +kernel, (values ⟨1e-8⟩).1, ?_, ?_, ?_⟩
  · exact ordered ⟨-104⟩ ⟨1e-8⟩ (by decide +kernel) (by decide +kernel) (by decide +kernel)
  · exact (classified model ⟨104⟩ sound).1 (by decide +kernel)
  · exact ((classified model ⟨-104⟩ sound).2.1 (by decide +kernel)).2

end Belief

end EvidenceGrid

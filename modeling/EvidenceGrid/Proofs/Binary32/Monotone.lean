import EvidenceGrid.Proofs.Binary32.Extended
import EvidenceGrid.Proofs.Binary32.Whole

/-!
Order through the operations of binary32. A sum or a difference that is too large is the
infinity of its sign, so on the line with both infinities adding a finite value keeps order, and
so does taking one away. Choosing between values and holding them between bounds are the
maximum and minimum there.
-/

set_option autoImplicit false

namespace EvidenceGrid.Binary32

open Float.Model (Format UnpackedFloat)
open Float.Model.UnpackedFloat

/-- Where the value that computes an exact number lies. -/
noncomputable def landing (exact : ℚ) : EReal :=
  if |rounded exact| < 2 ^ 128 then ((rounded exact : ℚ) : ℝ)
  else if 0 < rounded exact then ⊤ else ⊥

section Landing

theorem line_mono : Monotone fun number : ℚ => ((number : ℝ) : EReal) :=
  EReal.coe_strictMono.monotone.comp Rat.cast_mono

theorem landing_mono {low high : ℚ} (ordered : low ≤ high) : landing low ≤ landing high := by
  have kept := rounded_mono ordered
  simp only [landing]
  split_ifs with lowFits highFits highPositive lowPositive highFits highPositive
  · exact_mod_cast kept
  · exact le_top
  · rw [not_lt, abs_of_nonpos (not_lt.mp highPositive)] at highFits
    linarith [(abs_lt.mp lowFits).1]
  · rw [not_lt, abs_of_pos lowPositive] at lowFits
    linarith [(abs_lt.mp highFits).2]
  · exact le_rfl
  · exact absurd (lowPositive.trans_le kept) highPositive
  · exact bot_le
  · exact bot_le
  · exact bot_le

theorem extended_pack {result : UnpackedFloat} {exact : ℚ} (rounds : RoundsTo result exact) :
    extended (.ofModel (.pack result)) = landing exact := by
  obtain ⟨finite, canonical, value⟩ := rounds
  change unpackedExtended (unpack Format.binary32 (pack Format.binary32 result)) = _
  rw [landing, ← value]
  cases result with
  | infinity sign => cases finite
  | notANumber => cases finite
  | zero sign =>
      have unpacked : unpack Format.binary32 (pack Format.binary32 (.zero sign)) = .zero sign := by
        cases sign <;> rfl
      rw [unpacked, if_pos (by norm_num [unpackedNumber])]
      rfl
  | finite sign digits power positive =>
      have size : (0 : ℚ) < digits * 2 ^ power :=
        mul_pos (by exact_mod_cast positive) (zpow_pos (by norm_num) _)
      have small := abs_number_lt_iff sign positive canonical
      rw [unpack_pack_finite sign positive canonical]
      by_cases fits : power ≤ 104
      · rw [if_pos fits, if_pos (small.mpr fits)]
        rfl
      · rw [if_neg fits, if_neg (mt small.mp fits)]
        cases sign with
        | positive =>
            rw [if_pos (by simpa only [unpackedNumber, Sign.apply, Int.cast_natCast] using size)]
            rfl
        | negative =>
            have below : ¬0 < unpackedNumber (.finite .negative digits power positive) := by
              simp only [unpackedNumber, Sign.apply, Int.cast_neg, Int.cast_natCast, neg_mul]
              linarith
            rw [if_neg below]
            rfl

theorem landing_number {value : Float32} (finite : value.isFinite = true) :
    landing (number value) = extended value := by
  rw [landing, rounded_of_on_grid (on_grid_number value), if_pos (abs_number_lt finite),
    extended_of_finite finite]

theorem held_landing {low high : ℚ} (lowFits : |low| < 2 ^ 128) (highFits : |high| < 2 ^ 128)
    (exact : ℚ) :
    max ((low : ℝ) : EReal) (min ((high : ℝ) : EReal) (landing exact)) =
      ((max low (min high (rounded exact)) : ℚ) : ℝ) := by
  rw [landing]
  split_ifs with fits positive
  · rw [line_mono.map_max, line_mono.map_min]
  · rw [not_lt, abs_of_pos positive] at fits
    have beyond : high ≤ rounded exact := (le_abs_self high).trans (highFits.le.trans fits)
    rw [min_top_right, min_eq_left beyond, line_mono.map_max]
  · rw [not_lt, abs_of_nonpos (not_lt.mp positive)] at fits
    have beneath : rounded exact ≤ low := by linarith [(abs_lt.mp lowFits).1]
    rw [min_bot_right, max_bot_right, max_eq_left ((min_le_right _ _).trans beneath)]

end Landing

/-- An operation that shifts values by a number and leaves the infinities where they are. -/
structure Shifts (operation : Float32 → Float32) (shift : ℚ) : Prop where
  finite : ∀ value : Float32, value.isFinite = true →
    extended (operation value) = landing (number value + shift)
  infinite : ∀ (value : Float32) (sign : Sign), value.toModel.unpack = .infinity sign →
    extended (operation value) = extended value

theorem extended_of_infinite {value : Float32} {sign : Sign}
    (infinite : value.toModel.unpack = .infinity sign) :
    extended value = unpackedExtended (.infinity sign) := by
  rw [extended, infinite]

section Shifts

variable {operation other : Float32 → Float32} {shift more : ℚ} {left right : Float32}

theorem shifts_add (rightFinite : right.isFinite = true) : Shifts (· + right) (number right) := by
  constructor
  · intro value finite
    exact extended_pack
      (add_rounds finite rightFinite (canonical_value value) (canonical_value right))
  · intro value sign infinite
    rw [extended_of_infinite (add_infinite infinite rightFinite), extended_of_infinite infinite]

theorem shifts_sub (rightFinite : right.isFinite = true) : Shifts (· - right) (-number right) := by
  constructor
  · intro value finite
    rw [← sub_eq_add_neg]
    exact extended_pack
      (sub_rounds finite rightFinite (canonical_value value) (canonical_value right))
  · intro value sign infinite
    rw [extended_of_infinite (sub_infinite infinite rightFinite), extended_of_infinite infinite]

theorem Shifts.mono (shifts : Shifts operation shift) (others : Shifts other more)
    (raise : shift ≤ more) (leftSome : left.isNaN = false) (rightSome : right.isNaN = false)
    (ordered : extended left ≤ extended right) :
    extended (operation left) ≤ extended (other right) := by
  rcases finite_or_infinite leftSome with leftFinite | ⟨sign, leftIs⟩
  · rcases finite_or_infinite rightSome with rightFinite | ⟨sign, rightIs⟩
    · rw [shifts.finite left leftFinite, others.finite right rightFinite]
      rw [extended_of_finite leftFinite, extended_of_finite rightFinite] at ordered
      have numbers : number left ≤ number right := by exact_mod_cast ordered
      exact landing_mono (add_le_add numbers raise)
    · rw [others.infinite right sign rightIs]
      rw [extended_of_finite leftFinite, extended_of_infinite rightIs] at ordered
      rw [extended_of_infinite rightIs]
      cases sign with
      | positive => exact le_top
      | negative => exact absurd ordered (not_le.mpr (EReal.bot_lt_coe _))
  · rw [shifts.infinite left sign leftIs, extended_of_infinite leftIs]
    rw [extended_of_infinite leftIs] at ordered
    cases sign with
    | negative => exact bot_le
    | positive =>
        rcases finite_or_infinite rightSome with rightFinite | ⟨other, rightIs⟩
        · rw [extended_of_finite rightFinite] at ordered
          exact absurd ordered (not_le.mpr (EReal.coe_lt_top _))
        · rwa [others.infinite right other rightIs]

theorem extended_add_mono {less more : Float32} (lessFinite : less.isFinite = true)
    (moreFinite : more.isFinite = true) (raise : number less ≤ number more)
    (leftSome : left.isNaN = false) (rightSome : right.isNaN = false)
    (ordered : extended left ≤ extended right) : extended (left + less) ≤ extended (right + more) :=
  @Shifts.mono (· + less) (· + more) _ _ left right (shifts_add lessFinite)
    (shifts_add moreFinite) raise leftSome rightSome ordered

theorem extended_sub_mono {taken : Float32} (takenFinite : taken.isFinite = true)
    (leftSome : left.isNaN = false) (rightSome : right.isNaN = false)
    (ordered : extended left ≤ extended right) :
    extended (left - taken) ≤ extended (right - taken) :=
  @Shifts.mono (· - taken) (· - taken) _ _ left right (shifts_sub takenFinite)
    (shifts_sub takenFinite) le_rfl leftSome rightSome ordered

theorem shifts_self : Shifts id 0 where
  finite value finite := by rw [add_zero, landing_number finite, id]
  infinite _ _ _ := rfl

theorem extended_sub_le {value taken : Float32} (takenFinite : taken.isFinite = true)
    (nonneg : 0 ≤ number taken) (some : value.isNaN = false) :
    extended (value - taken) ≤ extended value :=
  @Shifts.mono (· - taken) id _ _ value value (shifts_sub takenFinite) shifts_self
    (neg_nonpos.mpr nonneg) some some le_rfl

theorem le_extended_add {value added : Float32} (addedFinite : added.isFinite = true)
    (nonneg : 0 ≤ number added) (some : value.isNaN = false) :
    extended value ≤ extended (value + added) :=
  @Shifts.mono id (· + added) _ _ value value shifts_self (shifts_add addedFinite)
    nonneg some some le_rfl

end Shifts

section Sign

variable {value : Float32} {sign : Sign}

theorem neg_infinite (infinite : value.toModel.unpack = .infinity sign) :
    (-value).toModel.unpack = .infinity (-sign) := by
  change (Float32.Model.pack value.toModel.unpack.neg).unpack = _
  rw [infinite]
  exact unpack_pack_infinity (-sign)

theorem abs_infinite (infinite : value.toModel.unpack = .infinity sign) :
    value.abs.toModel.unpack = .infinity .positive := by
  change (Float32.Model.pack value.toModel.unpack.abs).unpack = _
  rw [infinite]
  exact unpack_pack_infinity .positive

theorem extended_neg (some : value.isNaN = false) :
    (-value).isNaN = false ∧ extended (-value) = -extended value := by
  rcases finite_or_infinite some with finite | ⟨sign, infinite⟩
  · obtain ⟨negFinite, negNumber⟩ := neg_value finite
    rw [extended_of_finite finite, extended_of_finite negFinite, negNumber, Rat.cast_neg,
      EReal.coe_neg]
    exact ⟨not_nan_of_finite negFinite, rfl⟩
  · have opposite := neg_infinite infinite
    rw [extended_of_infinite infinite, extended_of_infinite opposite]
    refine ⟨not_nan_of_infinite opposite, ?_⟩
    cases sign with
    | positive => exact EReal.neg_top.symm
    | negative => exact EReal.neg_bot.symm

theorem extended_abs (some : value.isNaN = false) :
    value.abs.isNaN = false ∧ extended value.abs = max (extended value) (-extended value) := by
  rcases finite_or_infinite some with finite | ⟨sign, infinite⟩
  · obtain ⟨absFinite, absNumber⟩ := abs_value finite
    rw [extended_of_finite finite, extended_of_finite absFinite, absNumber, abs_eq_max_neg,
      line_mono.map_max, Rat.cast_neg, EReal.coe_neg]
    exact ⟨not_nan_of_finite absFinite, rfl⟩
  · have size := abs_infinite infinite
    rw [extended_of_infinite size, extended_of_infinite infinite]
    refine ⟨not_nan_of_infinite size, ?_⟩
    cases sign with
    | positive => exact (max_eq_left le_top).symm
    | negative => exact (max_eq_right bot_le).symm

end Sign

theorem not_nan_of_le {left right : Float32} (ordered : left ≤ right) :
    left.isNaN = false ∧ right.isNaN = false := by
  change decide ((left.toModel.unpack.compare right.toModel.unpack).any (·.isLE) = true) = true
    at ordered
  change left.toModel.unpack.isNaN = false ∧ right.toModel.unpack.isNaN = false
  rw [decide_eq_true_eq] at ordered
  cases first : left.toModel.unpack <;> cases second : right.toModel.unpack <;>
    rw [first, second] at ordered <;> first | exact ⟨rfl, rfl⟩ | cases ordered

theorem le_trans_values {low middle high : Float32} (first : low ≤ middle)
    (second : middle ≤ high) : low ≤ high := by
  obtain ⟨lowSome, middleSome⟩ := not_nan_of_le first
  obtain ⟨-, highSome⟩ := not_nan_of_le second
  rw [le_iff_extended lowSome middleSome] at first
  rw [le_iff_extended middleSome highSome] at second
  rw [le_iff_extended lowSome highSome]
  exact first.trans second

theorem neg_le_neg_values {low high : Float32} (ordered : low ≤ high) : -high ≤ -low := by
  obtain ⟨lowSome, highSome⟩ := not_nan_of_le ordered
  obtain ⟨negLow, lowValue⟩ := extended_neg lowSome
  obtain ⟨negHigh, highValue⟩ := extended_neg highSome
  rw [le_iff_extended lowSome highSome] at ordered
  rw [le_iff_extended negHigh negLow, lowValue, highValue]
  exact EReal.neg_le_neg_iff.mpr ordered

theorem extended_zero : extended 0 = 0 := by
  rw [extended_of_finite (show (0 : Float32).isFinite = true from rfl), number_zero]
  norm_num

theorem extended_neg_zero : (-0 : Float32).isNaN = false ∧ extended (-0) = 0 := by
  obtain ⟨some, value⟩ := extended_neg (show (0 : Float32).isNaN = false from rfl)
  rw [extended_zero, neg_zero] at value
  exact ⟨some, value⟩

section Choice

variable {left right low high value : Float32}

theorem extended_greater (leftSome : left.isNaN = false) (rightSome : right.isNaN = false) :
    extended (greater left right) = max (extended left) (extended right) := by
  rw [greater, leftSome, rightSome, if_neg Bool.false_ne_true, if_neg Bool.false_ne_true]
  split_ifs with below
  · rw [lt_iff_extended leftSome rightSome] at below
    exact (max_eq_right below.le).symm
  · rw [lt_iff_extended leftSome rightSome, not_lt] at below
    exact (max_eq_left below).symm

theorem extended_lesser (leftSome : left.isNaN = false) (rightSome : right.isNaN = false) :
    extended (lesser left right) = min (extended left) (extended right) := by
  rw [lesser, leftSome, rightSome, if_neg Bool.false_ne_true, if_neg Bool.false_ne_true]
  split_ifs with below
  · rw [lt_iff_extended rightSome leftSome] at below
    exact (min_eq_right below.le).symm
  · rw [lt_iff_extended rightSome leftSome, not_lt] at below
    exact (min_eq_left below).symm

theorem extended_clamp (lowSome : low.isNaN = false) (highSome : high.isNaN = false)
    (ordered : low ≤ high) (some : value.isNaN = false) :
    extended (clamp low high value) =
      max (extended low) (min (extended high) (extended value)) := by
  rw [le_iff_extended lowSome highSome] at ordered
  rw [clamp]
  split_ifs with beneath beyond
  · rw [lt_iff_extended some lowSome] at beneath
    exact (max_eq_left ((min_le_right _ _).trans beneath.le)).symm
  · rw [lt_iff_extended highSome some] at beyond
    rw [min_eq_left beyond.le, max_eq_right ordered]
  · rw [lt_iff_extended some lowSome, not_lt] at beneath
    rw [lt_iff_extended highSome some, not_lt] at beyond
    rw [min_eq_right beyond, max_eq_right beneath]

end Choice

end EvidenceGrid.Binary32

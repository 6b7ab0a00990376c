import EvidenceGrid.Proofs.Binary32.Error
import EvidenceGrid.Proofs.Binary32.Monotone

/-!
From odds to a probability: one over one and the odds. Odds may be infinite, and then the
probability is zero; the sum never is below one, so nothing else is special. Each step keeps
order or turns it around, rounding does neither harm, and even odds give one half exactly.
-/

set_option autoImplicit false

namespace EvidenceGrid.Binary32

open Float.Model (Format UnpackedFloat)
open Float.Model.UnpackedFloat

section Sum

variable {left right odds more : Float32}

theorem infinite_add {sign : Sign} (leftFinite : left.isFinite = true)
    (rightIs : right.toModel.unpack = .infinity sign) :
    (left + right).toModel.unpack = .infinity sign := by
  change left.toModel.unpack.isFinite = true at leftFinite
  change unpack Format.binary32 (pack Format.binary32
    (UnpackedFloat.add Format.binary32 left.toModel.unpack right.toModel.unpack)) = _
  rw [rightIs]
  cases unpacked : left.toModel.unpack with
  | infinity _ =>
      rw [unpacked] at leftFinite
      cases leftFinite
  | notANumber =>
      rw [unpacked] at leftFinite
      cases leftFinite
  | zero _ => exact unpack_pack_infinity sign
  | finite _ _ _ _ => exact unpack_pack_infinity sign

theorem shifts_add_left (leftFinite : left.isFinite = true) : Shifts (left + ·) (number left) := by
  constructor
  · intro value finite
    rw [add_comm]
    exact extended_pack
      (add_rounds leftFinite finite (canonical_value left) (canonical_value value))
  · intro value sign infinite
    rw [extended_of_infinite (infinite_add leftFinite infinite), extended_of_infinite infinite]

theorem not_nan_add_left (leftFinite : left.isFinite = true) (rightSome : right.isNaN = false) :
    (left + right).isNaN = false := by
  rcases finite_or_infinite rightSome with rightFinite | ⟨sign, rightIs⟩
  · exact not_nan_pack
      (add_rounds leftFinite rightFinite (canonical_value left) (canonical_value right))
  · exact not_nan_of_infinite (infinite_add leftFinite rightIs)

theorem extended_one : extended 1 = 1 := by
  rw [extended_of_finite (show (1 : Float32).isFinite = true from rfl), number_one]
  norm_num

theorem one_add_mono (oddsSome : odds.isNaN = false) (moreSome : more.isNaN = false)
    (ordered : extended odds ≤ extended more) : extended (1 + odds) ≤ extended (1 + more) :=
  @Shifts.mono (1 + ·) (1 + ·) _ _ odds more (shifts_add_left rfl) (shifts_add_left rfl) le_rfl
    oddsSome moreSome ordered

theorem one_le_one_add (some : odds.isNaN = false) (nonneg : 0 ≤ extended odds) :
    1 ≤ extended (1 + odds) := by
  rw [← extended_zero] at nonneg
  have least := one_add_mono rfl some nonneg
  rwa [show (1 + 0 : Float32) = 1 from rfl, extended_one] at least

end Sum

section Reciprocal

variable {value less : Float32}

theorem one_div_infinite {sign : Sign} (infinite : value.toModel.unpack = .infinity sign) :
    (1 / value).isFinite = true ∧ number (1 / value) = 0 := by
  have unpacked : (1 / value).toModel.unpack = .zero sign := by
    change unpack Format.binary32 (pack Format.binary32
      (UnpackedFloat.div Format.binary32 (1 : Float32).toModel.unpack value.toModel.unpack)) = _
    rw [infinite]
    cases sign <;> rfl
  constructor
  · change (1 / value).toModel.unpack.isFinite = true
    rw [unpacked]
    rfl
  · rw [number, unpacked]
    rfl

theorem one_le_cases (some : value.isNaN = false) (large : 1 ≤ extended value) :
    (value.isFinite = true ∧ 1 ≤ number value) ∨
      value.toModel.unpack = .infinity .positive := by
  rcases finite_or_infinite some with finite | ⟨sign, infinite⟩
  · rw [extended_of_finite finite] at large
    exact Or.inl ⟨finite, by exact_mod_cast large⟩
  · rw [extended_of_infinite infinite] at large
    cases sign with
    | positive => exact Or.inr infinite
    | negative => exact absurd large (not_le.mpr (EReal.bot_lt_coe 1))

theorem reciprocal_value (finite : value.isFinite = true) (large : 1 ≤ number value) :
    (1 / value).isFinite = true ∧ number (1 / value) = rounded (1 / number value) := by
  have quotient := div_computes (show (1 : Float32).isFinite = true from rfl) finite
    (by linarith : number value ≠ 0)
  rw [number_one] at quotient
  have small : |1 / number value| ≤ 1 := by
    rw [abs_of_nonneg (by positivity)]
    exact (div_le_one (by linarith)).mpr large
  have quotientFinite : (1 / value).isFinite = true :=
    quotient.finite_iff.mpr ((abs_rounded_le on_grid_one small).trans_lt (by norm_num))
  exact ⟨quotientFinite, quotient.number_eq quotientFinite⟩

theorem reciprocal_bounds (some : value.isNaN = false) (large : 1 ≤ extended value) :
    (1 / value).isFinite = true ∧ 0 ≤ number (1 / value) ∧ number (1 / value) ≤ 1 := by
  rcases one_le_cases some large with ⟨finite, above⟩ | infinite
  · obtain ⟨quotientFinite, quotient⟩ := reciprocal_value finite above
    have low := rounded_mono (show (0 : ℚ) ≤ 1 / number value by positivity)
    have high := rounded_mono ((div_le_one (by linarith)).mpr above)
    rw [rounded_zero, ← quotient] at low
    rw [rounded_of_on_grid on_grid_one, ← quotient] at high
    exact ⟨quotientFinite, low, high⟩
  · obtain ⟨quotientFinite, quotient⟩ := one_div_infinite infinite
    rw [quotient]
    exact ⟨quotientFinite, le_rfl, zero_le_one⟩

theorem reciprocal_antitone (lessSome : less.isNaN = false) (large : 1 ≤ extended less)
    (some : value.isNaN = false) (ordered : extended less ≤ extended value) :
    number (1 / value) ≤ number (1 / less) := by
  rcases one_le_cases some (large.trans ordered) with ⟨finite, above⟩ | infinite
  · have lessFinite : less.isFinite = true := by
      rcases one_le_cases lessSome large with ⟨lessFinite, -⟩ | lessInfinite
      · exact lessFinite
      · rw [extended_of_infinite lessInfinite, extended_of_finite finite] at ordered
        exact absurd ordered (not_le.mpr (EReal.coe_lt_top _))
    rw [extended_of_finite lessFinite] at large ordered
    rw [extended_of_finite finite] at ordered
    have lessAbove : 1 ≤ number less := by exact_mod_cast large
    have numbers : number less ≤ number value := by exact_mod_cast ordered
    rw [(reciprocal_value finite above).2, (reciprocal_value lessFinite lessAbove).2]
    exact rounded_mono (one_div_le_one_div_of_le (by linarith) numbers)
  · rw [(one_div_infinite infinite).2]
    exact (reciprocal_bounds lessSome large).2.1

end Reciprocal

end EvidenceGrid.Binary32

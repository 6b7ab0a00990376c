import EvidenceGrid.Proofs.Binary32.Comparison
import EvidenceGrid.Proofs.Binary32.Error

/-!
The zero of negative sign. A number says everything of a finite value but the sign of a
zero, so values that are not the negative zero are equal when their numbers are. A sum
is the negative zero only if both of its terms are: terms that cancel give the positive
one, and sums do not underflow.
-/

set_option autoImplicit false

namespace EvidenceGrid.Binary32

open Float.Model (Format UnpackedFloat)
open Float.Model.UnpackedFloat

theorem eq_neg_zero_iff (value : Float32) :
    value = -0 ↔ value.toModel.unpack = .zero .negative := by
  rw [← Float32.toBits_inj, ← UInt32.toBitVec_inj]
  exact (unpack_inj_of_valid value.toModel.valid (-0 : Float32).toModel.valid).symm

/-- Finite values with one number are equal, unless one of them is the negative zero. -/
theorem eq_of_number_eq {left right : Float32} (leftFinite : left.isFinite = true)
    (rightFinite : right.isFinite = true) (leftSigned : left ≠ -0) (rightSigned : right ≠ -0)
    (same : number left = number right) : left = right := by
  have equal := (beq_iff leftFinite rightFinite).mpr same
  obtain ⟨-, -, equal | ⟨-, negative⟩ | ⟨negative, -⟩⟩ := Float32.beq_iff_ne_nan_and_eq.mp equal
  · exact equal
  · exact absurd negative rightSigned
  · exact absurd negative leftSigned

theorem sum_neg_zero {first second : UnpackedFloat} (firstFinite : first.isFinite = true)
    (secondFinite : second.isFinite = true) (firstCanonical : Canonical first)
    (secondCanonical : Canonical second)
    (negative : UnpackedFloat.add Format.binary32 first second = .zero .negative) :
    first = .zero .negative := by
  have rounds := add_rounds firstFinite secondFinite firstCanonical secondCanonical
  cases first with
  | infinity _ => cases firstFinite
  | notANumber => cases firstFinite
  | zero sign =>
      cases second with
      | infinity _ => cases secondFinite
      | notANumber => cases secondFinite
      | finite _ _ _ _ => cases negative
      | zero other =>
          rw [UnpackedFloat.add] at negative
          split_ifs at negative
          · exact negative
          · cases negative
  | finite sign digits power positive =>
      cases second with
      | infinity _ => cases secondFinite
      | notANumber => cases secondFinite
      | zero _ => cases negative
      | finite other digits' power' positive' =>
          -- A sum does not underflow: its error is relative, so it is zero only when nothing
          -- is left, and then its sign is the one that the operation asks for.
          have value := rounds.number
          have error := rounded_relative (multiple_add
            (multiple_of_on_grid (on_grid_of_canonical firstCanonical))
            (multiple_of_on_grid (on_grid_of_canonical secondCanonical)))
          have nothing : unpackedNumber (.zero .negative) = 0 := rfl
          rw [← value, negative, nothing, zero_sub, abs_neg] at error
          set whole := sign.apply (decreaseExponent digits power (min power power')).1 +
            other.apply (decreaseExponent digits' power' (min power power')).1 with wholeDef
          have cancelled : (whole : ℚ) * 2 ^ min power power' = 0 := by
            rw [wholeDef, Int.cast_add, add_mul, aligned_number sign digits (min_le_left _ _),
              aligned_number other digits' (min_le_right _ _), ← abs_nonpos_iff]
            simp only [unpackedNumber] at error
            linarith
          have none : whole = 0 := by
            have unit : (2 : ℚ) ^ min power power' ≠ 0 := by positivity
            exact_mod_cast (mul_eq_zero.mp cancelled).resolve_right unit
          change UnpackedFloat.normalize Format.binary32 whole (min power power') .positive = _
            at negative
          rw [none] at negative
          cases negative

theorem zero_of_pack {result : UnpackedFloat} {sign : Sign} (finite : result.isFinite = true)
    (canonical : Canonical result) (packed : (Float32.Model.pack result).unpack = .zero sign) :
    result = .zero sign := by
  cases result with
  | infinity _ => cases finite
  | notANumber => cases finite
  | zero other =>
      have kept : (Float32.Model.pack (.zero other)).unpack = .zero other := by
        cases other <;> rfl
      exact kept.symm.trans packed
  | finite other digits power positive =>
      have unpacked : (Float32.Model.pack (.finite other digits power positive)).unpack = _ :=
        unpack_pack_finite other positive canonical
      rw [unpacked] at packed
      split_ifs at packed

theorem add_neg_zero {left right : Float32} (negative : left + right = -0) : left = -0 := by
  have finite : (left + right).isFinite = true := by
    rw [negative]
    decide +kernel
  obtain ⟨leftFinite, rightFinite⟩ := finite_operands_of_add finite
  have rounds := add_rounds leftFinite rightFinite (canonical_value left) (canonical_value right)
  rw [eq_neg_zero_iff] at negative ⊢
  exact sum_neg_zero leftFinite rightFinite (canonical_value left) (canonical_value right)
    (zero_of_pack rounds.finite rounds.canonical negative)

end EvidenceGrid.Binary32

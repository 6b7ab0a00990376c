import EvidenceGrid.Proofs.Binary32.Arithmetic

/-!
Comparison of binary32 values as comparison of exact numbers, the operations that
only touch the sign, and what a finite result says about its operands.
-/

set_option autoImplicit false

namespace EvidenceGrid.Binary32

open Float.Model (Format UnpackedFloat)
open Float.Model.UnpackedFloat

theorem compare_magnitudes {digits digits' : Nat} {power power' : Int}
    (fits : digits < 2 ^ 24) (fits' : digits' < 2 ^ 24)
    (floor : -149 ≤ power) (floor' : -149 ≤ power')
    (full : 2 ^ 23 ≤ digits ∨ power = -149) (full' : 2 ^ 23 ≤ digits' ∨ power' = -149) :
    (compare power power').then (compare digits digits') =
      compare ((digits : ℚ) * 2 ^ power) (digits' * 2 ^ power') := by
  -- A lower exponent means a smaller magnitude, whatever the digits.
  have lower {few many : Nat} {low high : Int} (fits : few < 2 ^ 24) (floor : -149 ≤ low)
      (full : 2 ^ 23 ≤ many ∨ high = -149) (below : low < high) :
      (few : ℚ) * 2 ^ low < many * 2 ^ high := by
    have manyCast : (2 : ℚ) ^ 23 ≤ many := by exact_mod_cast full.resolve_right (by omega)
    have fewCast : (few : ℚ) < 2 ^ 24 := by exact_mod_cast fits
    have step : (2 : ℚ) ^ (low + 1) ≤ 2 ^ high := zpow_le_zpow_right₀ (by norm_num) (by omega)
    have unit : (0 : ℚ) < 2 ^ low := zpow_pos (by norm_num) _
    rw [zpow_add_one₀ (by norm_num : (2 : ℚ) ≠ 0)] at step
    calc (few : ℚ) * 2 ^ low < 2 ^ 24 * 2 ^ low := mul_lt_mul_of_pos_right fewCast unit
      _ = 2 ^ 23 * (2 ^ low * 2) := by ring
      _ ≤ many * 2 ^ high := mul_le_mul manyCast step (by positivity) (by positivity)
  rcases lt_trichotomy power power' with below | rfl | above
  · rw [Int.compare_eq_lt.mpr below, Ordering.lt_then, eq_comm, compare_lt_iff_lt]
    exact lower fits floor full' below
  · have unit : (0 : ℚ) < 2 ^ power := zpow_pos (by norm_num) _
    rw [compare_eq_iff_eq.mpr rfl, Ordering.eq_then]
    rcases lt_trichotomy digits digits' with less | rfl | more
    · rw [Nat.compare_eq_lt.mpr less, eq_comm, compare_lt_iff_lt]
      exact mul_lt_mul_of_pos_right (by exact_mod_cast less) unit
    · rw [compare_eq_iff_eq.mpr rfl, compare_eq_iff_eq.mpr rfl]
    · rw [Nat.compare_eq_gt.mpr more, eq_comm, compare_gt_iff_gt]
      exact mul_lt_mul_of_pos_right (by exact_mod_cast more) unit
  · rw [Int.compare_eq_gt.mpr above, Ordering.gt_then, eq_comm, compare_gt_iff_gt]
    exact lower fits' floor' full above

theorem compare_opposites (left right : ℚ) :
    compare (-left) (-right) = (compare left right).swap := by
  rcases lt_trichotomy left right with less | rfl | more
  · rw [compare_lt_iff_lt.mpr less]
    exact compare_gt_iff_gt.mpr (neg_lt_neg less)
  · rw [compare_eq_iff_eq.mpr rfl, compare_eq_iff_eq.mpr rfl]
    rfl
  · rw [compare_gt_iff_gt.mpr more]
    exact compare_lt_iff_lt.mpr (neg_lt_neg more)

section Signs

variable {digits digits' : Nat}

theorem positive_number (power : Int) (positive : 0 < digits) :
    0 < unpackedNumber (.finite .positive digits power positive) := by
  have some : (0 : ℚ) < digits := by exact_mod_cast positive
  simp only [unpackedNumber, Sign.apply, Int.cast_natCast]
  exact mul_pos some (zpow_pos (by norm_num) _)

theorem negative_number (power : Int) (positive : 0 < digits) :
    unpackedNumber (.finite .negative digits power positive) < 0 := by
  have opposite := neg_neg_of_pos (positive_number power positive)
  simpa only [unpackedNumber, Sign.apply, Int.cast_neg, neg_mul] using opposite

theorem compare_finite {power power' : Int} {sign sign' : UnpackedFloat.Sign}
    {positive : 0 < digits} {positive' : 0 < digits'}
    (canonical : Canonical (.finite sign digits power positive))
    (canonical' : Canonical (.finite sign' digits' power' positive')) :
    (UnpackedFloat.finite sign digits power positive).compare
        (.finite sign' digits' power' positive') =
      some (compare (unpackedNumber (.finite sign digits power positive))
        (unpackedNumber (.finite sign' digits' power' positive'))) := by
  obtain ⟨fits, floor, full⟩ := canonical
  obtain ⟨fits', floor', full'⟩ := canonical'
  have magnitudes := compare_magnitudes fits fits' floor floor' full full'
  cases sign with
  | positive =>
      cases sign' with
      | positive =>
          simp only [UnpackedFloat.compare, unpackedNumber, Sign.apply, Int.cast_natCast, magnitudes]
      | negative =>
          have apart := (negative_number power' positive').trans (positive_number power positive)
          exact congrArg some (compare_gt_iff_gt.mpr apart).symm
  | negative =>
      cases sign' with
      | positive =>
          have apart := (negative_number power positive).trans (positive_number power' positive')
          exact congrArg some (compare_lt_iff_lt.mpr apart).symm
      | negative =>
          simp only [UnpackedFloat.compare, unpackedNumber, Sign.apply, Int.cast_neg,
            Int.cast_natCast, neg_mul, compare_opposites, magnitudes]

end Signs

theorem compare_numbers {left right : UnpackedFloat} (leftFinite : left.isFinite = true)
    (rightFinite : right.isFinite = true) (leftCanonical : Canonical left)
    (rightCanonical : Canonical right) :
    left.compare right = some (compare (unpackedNumber left) (unpackedNumber right)) := by
  cases left with
  | infinity _ => cases leftFinite
  | notANumber => cases leftFinite
  | zero sign =>
      cases right with
      | infinity _ => cases rightFinite
      | notANumber => cases rightFinite
      | zero other => simp [UnpackedFloat.compare, unpackedNumber]
      | finite other digits power positive =>
          cases other with
          | positive =>
              exact congrArg some (compare_lt_iff_lt.mpr (positive_number power positive)).symm
          | negative =>
              exact congrArg some (compare_gt_iff_gt.mpr (negative_number power positive)).symm
  | finite sign digits power positive =>
      cases right with
      | infinity _ => cases rightFinite
      | notANumber => cases rightFinite
      | zero other =>
          cases sign with
          | positive =>
              exact congrArg some (compare_gt_iff_gt.mpr (positive_number power positive)).symm
          | negative =>
              exact congrArg some (compare_lt_iff_lt.mpr (negative_number power positive)).symm
      | finite other digits' power' positive' => exact compare_finite leftCanonical rightCanonical

section Comparison

variable {left right : Float32}

theorem compare_values (leftFinite : left.isFinite = true) (rightFinite : right.isFinite = true) :
    left.toModel.unpack.compare right.toModel.unpack =
      some (compare (number left) (number right)) :=
  compare_numbers leftFinite rightFinite (canonical_value left) (canonical_value right)

theorem le_iff (leftFinite : left.isFinite = true) (rightFinite : right.isFinite = true) :
    left ≤ right ↔ number left ≤ number right := by
  change decide ((left.toModel.unpack.compare right.toModel.unpack).any (·.isLE) = true) = true ↔ _
  rw [compare_values leftFinite rightFinite, decide_eq_true_eq, Option.any_some]
  rw [← Ordering.ne_gt_iff_isLE]
  exact compare_le_iff_le

theorem lt_iff (leftFinite : left.isFinite = true) (rightFinite : right.isFinite = true) :
    left < right ↔ number left < number right := by
  change decide ((left.toModel.unpack.compare right.toModel.unpack == some .lt) = true) = true ↔ _
  rw [compare_values leftFinite rightFinite, decide_eq_true_eq, beq_iff_eq, Option.some.injEq]
  exact compare_lt_iff_lt

theorem beq_iff (leftFinite : left.isFinite = true) (rightFinite : right.isFinite = true) :
    (left == right) = true ↔ number left = number right := by
  change (left.toModel.unpack.compare right.toModel.unpack == some .eq) = true ↔ _
  rw [compare_values leftFinite rightFinite, beq_iff_eq, Option.some.injEq]
  exact compare_eq_iff_eq

end Comparison

end EvidenceGrid.Binary32

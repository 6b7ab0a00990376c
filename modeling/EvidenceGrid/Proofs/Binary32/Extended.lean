import EvidenceGrid.Proofs.Binary32.Conversion

/-!
Binary32 values on the line with both infinities. NaN apart, each value lies somewhere on
it and comparison is comparison there, so of two values that are not NaN one is above the
other. A sum that is too large lies at the end of its sign, and no sum of a finite value
and one that is not NaN is NaN.
-/

set_option autoImplicit false

namespace EvidenceGrid.Binary32

open Float.Model (Format UnpackedFloat)
open Float.Model.UnpackedFloat

/-- Where an unpacked value lies. NaN lies nowhere, and what is given for it does not matter. -/
noncomputable def unpackedExtended : UnpackedFloat → EReal
  | .infinity .positive => ⊤
  | .infinity .negative => ⊥
  | unpacked => ((unpackedNumber unpacked : ℚ) : ℝ)

noncomputable def extended (value : Float32) : EReal := unpackedExtended value.toModel.unpack

section Order

theorem unpacked_extended_of_finite {unpacked : UnpackedFloat}
    (finite : unpacked.isFinite = true) :
    unpackedExtended unpacked = ((unpackedNumber unpacked : ℚ) : ℝ) := by
  cases unpacked with
  | infinity sign => cases finite
  | notANumber => cases finite
  | zero sign => rfl
  | finite sign digits power positive => rfl

variable {left right value : Float32}

theorem extended_of_finite (finite : value.isFinite = true) :
    extended value = ((number value : ℚ) : ℝ) :=
  unpacked_extended_of_finite finite

theorem finite_or_infinite (some : value.isNaN = false) :
    value.isFinite = true ∨ ∃ sign, value.toModel.unpack = .infinity sign := by
  change value.toModel.unpack.isNaN = false at some
  change value.toModel.unpack.isFinite = true ∨ _
  cases unpacked : value.toModel.unpack with
  | infinity sign => exact Or.inr ⟨sign, rfl⟩
  | notANumber =>
      rw [unpacked] at some
      cases some
  | zero sign => exact Or.inl rfl
  | finite sign digits power positive => exact Or.inl rfl

theorem compare_infinity {unpacked : UnpackedFloat} (finite : unpacked.isFinite = true)
    (sign : Sign) :
    (UnpackedFloat.infinity sign).compare unpacked =
        some (compare (unpackedExtended (.infinity sign)) (unpackedExtended unpacked)) ∧
      unpacked.compare (.infinity sign) =
        some (compare (unpackedExtended unpacked) (unpackedExtended (.infinity sign))) := by
  rw [unpacked_extended_of_finite finite]
  cases sign with
  | positive =>
      have below := EReal.coe_lt_top ((unpackedNumber unpacked : ℚ) : ℝ)
      rw [unpackedExtended, compare_gt_iff_gt.mpr below, compare_lt_iff_lt.mpr below]
      cases unpacked with
      | infinity _ => cases finite
      | notANumber => cases finite
      | zero _ => exact ⟨rfl, rfl⟩
      | finite other _ _ _ => cases other <;> exact ⟨rfl, rfl⟩
  | negative =>
      have above := EReal.bot_lt_coe ((unpackedNumber unpacked : ℚ) : ℝ)
      rw [unpackedExtended, compare_lt_iff_lt.mpr above, compare_gt_iff_gt.mpr above]
      cases unpacked with
      | infinity _ => cases finite
      | notANumber => cases finite
      | zero _ => exact ⟨rfl, rfl⟩
      | finite other _ _ _ => cases other <;> exact ⟨rfl, rfl⟩

theorem compare_coe (first second : ℚ) :
    compare first second = compare (((first : ℝ)) : EReal) (second : ℝ) := by
  rcases lt_trichotomy first second with below | rfl | above
  · rw [compare_lt_iff_lt.mpr below, eq_comm, compare_lt_iff_lt]
    exact_mod_cast below
  · rw [compare_eq_iff_eq.mpr rfl, compare_eq_iff_eq.mpr rfl]
  · rw [compare_gt_iff_gt.mpr above, eq_comm, compare_gt_iff_gt]
    exact_mod_cast above

theorem compare_extended (leftSome : left.isNaN = false) (rightSome : right.isNaN = false) :
    left.toModel.unpack.compare right.toModel.unpack =
      some (compare (extended left) (extended right)) := by
  rcases finite_or_infinite leftSome with leftFinite | ⟨sign, leftIs⟩
  · rcases finite_or_infinite rightSome with rightFinite | ⟨other, rightIs⟩
    · rw [compare_values leftFinite rightFinite, extended_of_finite leftFinite,
        extended_of_finite rightFinite, compare_coe]
    · unfold extended
      rw [rightIs]
      exact (compare_infinity leftFinite other).2
  · rcases finite_or_infinite rightSome with rightFinite | ⟨other, rightIs⟩
    · unfold extended
      rw [leftIs]
      exact (compare_infinity rightFinite sign).1
    · unfold extended
      rw [leftIs, rightIs]
      have apart : (⊥ : EReal) < ⊤ := bot_lt_top
      cases sign <;> cases other <;> simp only [unpackedExtended]
      · rw [compare_eq_iff_eq.mpr rfl]
        rfl
      · rw [compare_lt_iff_lt.mpr apart]
        rfl
      · rw [compare_gt_iff_gt.mpr apart]
        rfl
      · rw [compare_eq_iff_eq.mpr rfl]
        rfl

theorem le_iff_extended (leftSome : left.isNaN = false) (rightSome : right.isNaN = false) :
    left ≤ right ↔ extended left ≤ extended right := by
  change decide ((left.toModel.unpack.compare right.toModel.unpack).any (·.isLE) = true) = true ↔ _
  rw [compare_extended leftSome rightSome, decide_eq_true_eq, Option.any_some,
    ← Ordering.ne_gt_iff_isLE]
  exact compare_le_iff_le

theorem lt_iff_extended (leftSome : left.isNaN = false) (rightSome : right.isNaN = false) :
    left < right ↔ extended left < extended right := by
  change decide ((left.toModel.unpack.compare right.toModel.unpack == some .lt) = true) = true ↔ _
  rw [compare_extended leftSome rightSome, decide_eq_true_eq, beq_iff_eq, Option.some.injEq]
  exact compare_lt_iff_lt

theorem beq_iff_extended (leftSome : left.isNaN = false) (rightSome : right.isNaN = false) :
    (left == right) = true ↔ extended left = extended right := by
  change (left.toModel.unpack.compare right.toModel.unpack == some .eq) = true ↔ _
  rw [compare_extended leftSome rightSome, beq_iff_eq, Option.some.injEq]
  exact compare_eq_iff_eq

end Order

section Sum

variable {left right : Float32}

theorem not_nan_of_finite {value : Float32} (finite : value.isFinite = true) :
    value.isNaN = false :=
  Bool.eq_false_iff.mpr (not_nan finite)

theorem not_nan_pack {result : UnpackedFloat} {exact : ℚ} (rounds : RoundsTo result exact) :
    (Float32.ofModel (.pack result)).isNaN = false := by
  obtain ⟨finite, canonical, -⟩ := rounds
  change (unpack Format.binary32 (pack Format.binary32 result)).isNaN = false
  cases result with
  | infinity sign => cases finite
  | notANumber => cases finite
  | zero sign => cases sign <;> rfl
  | finite sign digits power positive =>
      rw [unpack_pack_finite sign positive canonical]
      split_ifs <;> rfl

theorem unpack_pack_infinity (sign : Sign) :
    unpack Format.binary32 (pack Format.binary32 (.infinity sign)) = .infinity sign := by
  rw [pack, packedInfinity, unpack]
  simp only [unpackMantissa_packComponents, unpackExponent_packComponents,
    unpackSign_packComponents, Sign.ofBitVec_toBitVec]
  rfl

theorem add_infinite {sign : Sign} (leftIs : left.toModel.unpack = .infinity sign)
    (rightFinite : right.isFinite = true) : (left + right).toModel.unpack = .infinity sign := by
  change right.toModel.unpack.isFinite = true at rightFinite
  change unpack Format.binary32 (pack Format.binary32
    (UnpackedFloat.add Format.binary32 left.toModel.unpack right.toModel.unpack)) = _
  rw [leftIs]
  cases unpacked : right.toModel.unpack with
  | infinity _ =>
      rw [unpacked] at rightFinite
      cases rightFinite
  | notANumber =>
      rw [unpacked] at rightFinite
      cases rightFinite
  | zero _ => exact unpack_pack_infinity sign
  | finite _ _ _ _ => exact unpack_pack_infinity sign

theorem sub_infinite {sign : Sign} (leftIs : left.toModel.unpack = .infinity sign)
    (rightFinite : right.isFinite = true) : (left - right).toModel.unpack = .infinity sign := by
  change right.toModel.unpack.isFinite = true at rightFinite
  change unpack Format.binary32 (pack Format.binary32
    (UnpackedFloat.sub Format.binary32 left.toModel.unpack right.toModel.unpack)) = _
  rw [leftIs]
  cases unpacked : right.toModel.unpack with
  | infinity _ =>
      rw [unpacked] at rightFinite
      cases rightFinite
  | notANumber =>
      rw [unpacked] at rightFinite
      cases rightFinite
  | zero _ => exact unpack_pack_infinity sign
  | finite _ _ _ _ => exact unpack_pack_infinity sign

theorem not_nan_of_infinite {value : Float32} {sign : Sign}
    (infinite : value.toModel.unpack = .infinity sign) : value.isNaN = false := by
  change value.toModel.unpack.isNaN = false
  rw [infinite]
  rfl

theorem not_nan_add (leftSome : left.isNaN = false) (rightFinite : right.isFinite = true) :
    (left + right).isNaN = false := by
  rcases finite_or_infinite leftSome with leftFinite | ⟨sign, leftIs⟩
  · exact not_nan_pack
      (add_rounds leftFinite rightFinite (canonical_value left) (canonical_value right))
  · exact not_nan_of_infinite (add_infinite leftIs rightFinite)

theorem not_nan_sub (leftSome : left.isNaN = false) (rightFinite : right.isFinite = true) :
    (left - right).isNaN = false := by
  rcases finite_or_infinite leftSome with leftFinite | ⟨sign, leftIs⟩
  · exact not_nan_pack
      (sub_rounds leftFinite rightFinite (canonical_value left) (canonical_value right))
  · exact not_nan_of_infinite (sub_infinite leftIs rightFinite)

end Sum

section Choice

variable {left right : Float32}

theorem not_nan_greater (leftSome : left.isNaN = false) (rightSome : right.isNaN = false) :
    (greater left right).isNaN = false := by
  rw [greater]
  split_ifs <;> assumption

theorem not_nan_lesser (leftSome : left.isNaN = false) (rightSome : right.isNaN = false) :
    (lesser left right).isNaN = false := by
  rw [lesser]
  split_ifs <;> assumption

end Choice

section Clamp

variable {low high value : Float32}

theorem finite_of_between (some : value.isNaN = false) (lowFinite : low.isFinite = true)
    (highFinite : high.isFinite = true) (above : low ≤ value) (below : value ≤ high) :
    value.isFinite = true := by
  rcases finite_or_infinite some with finite | ⟨sign, infinite⟩
  · exact finite
  · rw [le_iff_extended (not_nan_of_finite lowFinite) some, extended_of_finite lowFinite,
      extended, infinite] at above
    rw [le_iff_extended some (not_nan_of_finite highFinite), extended_of_finite highFinite,
      extended, infinite] at below
    cases sign with
    | positive => exact absurd below (not_le.mpr (EReal.coe_lt_top _))
    | negative => exact absurd above (not_le.mpr (EReal.bot_lt_coe _))

theorem clamp_between (lowFinite : low.isFinite = true) (highFinite : high.isFinite = true)
    (ordered : low ≤ high) (some : value.isNaN = false) :
    (clamp low high value).isNaN = false ∧ low ≤ clamp low high value ∧
      clamp low high value ≤ high := by
  have lowSome := not_nan_of_finite lowFinite
  have highSome := not_nan_of_finite highFinite
  rw [clamp]
  split_ifs with beneath beyond
  · exact ⟨lowSome, (le_iff lowFinite lowFinite).mpr le_rfl, ordered⟩
  · exact ⟨highSome, ordered, (le_iff highFinite highFinite).mpr le_rfl⟩
  · rw [lt_iff_extended some lowSome, not_lt, ← le_iff_extended lowSome some] at beneath
    rw [lt_iff_extended highSome some, not_lt, ← le_iff_extended some highSome] at beyond
    exact ⟨some, beneath, beyond⟩

/-- Confining brings every value between bounds that are in order, NaN to the lower one. -/
theorem confine_between (lowFinite : low.isFinite = true) (highFinite : high.isFinite = true)
    (ordered : low ≤ high) (value : Float32) :
    (confine low high value).isFinite = true ∧ low ≤ confine low high value ∧
      confine low high value ≤ high := by
  have lowSome := not_nan_of_finite lowFinite
  have highSome := not_nan_of_finite highFinite
  have lowLeast : low ≤ low := (le_iff lowFinite lowFinite).mpr le_rfl
  have highMost : high ≤ high := (le_iff highFinite highFinite).mpr le_rfl
  have raised : (greater value low).isNaN = false ∧ low ≤ greater value low := by
    rw [greater, if_neg (not_nan lowFinite)]
    split_ifs with none beneath
    · exact ⟨lowSome, lowLeast⟩
    · exact ⟨lowSome, lowLeast⟩
    · have some : value.isNaN = false := by simpa using none
      rw [lt_iff_extended some lowSome, not_lt, ← le_iff_extended lowSome some] at beneath
      exact ⟨some, beneath⟩
  obtain ⟨raisedSome, above⟩ := raised
  rw [confine, lesser, if_neg (Bool.eq_false_iff.mp raisedSome), if_neg (not_nan highFinite)]
  split_ifs with beyond
  · exact ⟨highFinite, ordered, highMost⟩
  · rw [lt_iff_extended highSome raisedSome, not_lt, ← le_iff_extended raisedSome highSome]
      at beyond
    exact ⟨finite_of_between raisedSome lowFinite highFinite above beyond, above, beyond⟩

end Clamp

end EvidenceGrid.Binary32

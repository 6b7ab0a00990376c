import EvidenceGrid.Proofs.BeliefMap.History
import EvidenceGrid.Proofs.Binary32.Monotone
import EvidenceGrid.Proofs.SensorModel.Bounds

/-!
Stronger evidence leaves stronger belief. One revision keeps the order of beliefs when the same
is seen of both, and also when the higher one sees an obstacle where the lower one sees free
space; so two runs stay ordered over any number of frames. Beliefs may be infinite here, and lie
on both sides of zero. Only NaN has no place in the order.
-/

set_option autoImplicit false

namespace EvidenceGrid

open Binary32

/-! ## Fading -/

section Fade

variable {belief lower upper : Belief} {rate : Float32}

theorem extended_fade (isNumber : belief.logOdds.isNaN = false)
    (rateFinite : rate.isFinite = true) :
    extended (belief.fade rate).logOdds =
      if 0 < extended belief.logOdds then max (extended (belief.logOdds - rate)) 0
      else if extended belief.logOdds < 0 then min (extended (belief.logOdds + rate)) 0
      else extended belief.logOdds := by
  have zeroNumber : (0 : Float32).isNaN = false := rfl
  have above := lt_iff_extended zeroNumber isNumber
  have below := lt_iff_extended isNumber zeroNumber
  rw [extended_zero] at above below
  rw [Belief.fade]
  simp only [above, below]
  split_ifs
  · rw [extended_greater (not_nan_sub isNumber rateFinite) zeroNumber, extended_zero]
  · rw [extended_lesser (not_nan_add isNumber rateFinite) zeroNumber, extended_zero]
  · rfl

theorem fade_keeps_sign (isNumber : belief.logOdds.isNaN = false)
    (rateFinite : rate.isFinite = true) :
    (0 ≤ extended belief.logOdds → 0 ≤ extended (belief.fade rate).logOdds) ∧
      (extended belief.logOdds ≤ 0 → extended (belief.fade rate).logOdds ≤ 0) := by
  rw [extended_fade isNumber rateFinite]
  split_ifs with positive negative
  · exact ⟨fun _ => le_max_right _ _, fun nonpos => absurd positive (not_lt.mpr nonpos)⟩
  · exact ⟨fun nonneg => absurd negative (not_lt.mpr nonneg), fun _ => min_le_right _ _⟩
  · exact ⟨id, id⟩

theorem fade_mono (lowerNumber : lower.logOdds.isNaN = false)
    (upperNumber : upper.logOdds.isNaN = false) (rateFinite : rate.isFinite = true)
    (ordered : extended lower.logOdds ≤ extended upper.logOdds) :
    extended (lower.fade rate).logOdds ≤ extended (upper.fade rate).logOdds := by
  have lowerSign := fade_keeps_sign lowerNumber rateFinite
  have upperSign := fade_keeps_sign upperNumber rateFinite
  rcases lt_or_ge 0 (extended lower.logOdds) with positive | nonpos
  · rw [extended_fade lowerNumber rateFinite, extended_fade upperNumber rateFinite, if_pos positive,
      if_pos (positive.trans_le ordered)]
    exact max_le_max_right 0 (extended_sub_mono rateFinite lowerNumber upperNumber ordered)
  · rcases lt_or_ge (extended upper.logOdds) 0 with negative | nonneg
    · rw [extended_fade lowerNumber rateFinite, extended_fade upperNumber rateFinite,
        if_neg (not_lt.mpr nonpos), if_neg (not_lt.mpr negative.le),
        if_pos (ordered.trans_lt negative), if_pos negative]
      exact min_le_min_right 0 (extended_add_mono rateFinite rateFinite le_rfl lowerNumber
        upperNumber ordered)
    · exact (lowerSign.2 nonpos).trans (upperSign.1 nonneg)

end Fade

/-! ## Revising -/

/-- The same is seen, or an obstacle in the place of free space. -/
def Occupancy.Hardens (seen other : Occupancy) : Prop :=
  other = seen ∨ seen = .free ∧ other = .occupied

namespace SensorModel

variable {model : SensorModel} {prior lower upper : Belief} {seen other : Occupancy}

theorem extended_observed (usable : model.Usable) (isNumber : prior.logOdds.isNaN = false)
    (known : seen ≠ .unknown) :
    extended (model.revised prior seen).logOdds = max (extended model.low)
      (min (extended model.high) (extended (prior.logOdds + model.evidence seen))) := by
  rw [revised_observed usable prior known]
  exact extended_clamp (not_nan_of_finite usable.low_finite) (not_nan_of_finite usable.high_finite)
    (bounds_in_order usable) (not_nan_add isNumber (usable.evidence_finite seen))

theorem evidence_mono (usable : model.Usable) (hardens : seen.Hardens other) :
    number (model.evidence seen) ≤ number (model.evidence other) := by
  rcases hardens with rfl | ⟨rfl, rfl⟩
  · exact le_rfl
  · exact (usable.miss.trans usable.hit).le

theorem revised_mono (usable : model.Usable) (lowerNumber : lower.logOdds.isNaN = false)
    (upperNumber : upper.logOdds.isNaN = false) (hardens : seen.Hardens other)
    (ordered : extended lower.logOdds ≤ extended upper.logOdds) :
    extended (model.revised lower seen).logOdds ≤ extended (model.revised upper other).logOdds := by
  by_cases known : seen = .unknown
  · obtain rfl : other = .unknown := by
      rcases hardens with same | ⟨free, -⟩
      · exact same.trans known
      · exact absurd (free.symm.trans known) (by decide)
    rw [known, revised_unobserved, revised_unobserved]
    split_ifs
    · exact fade_mono lowerNumber upperNumber usable.decay_finite ordered
    · exact ordered
  · have otherKnown : other ≠ .unknown := by
      rcases hardens with rfl | ⟨-, rfl⟩
      · exact known
      · decide
    rw [extended_observed usable lowerNumber known, extended_observed usable upperNumber otherKnown]
    have sums := extended_add_mono (usable.evidence_finite seen) (usable.evidence_finite other)
      (evidence_mono usable hardens) lowerNumber upperNumber ordered
    exact max_le_max_left _ (min_le_min_left _ sums)

theorem revised_run_mono (usable : model.Usable) {fewer more : List Occupancy}
    (hardens : List.Forall₂ Occupancy.Hardens fewer more)
    (lowerNumber : lower.logOdds.isNaN = false) (upperNumber : upper.logOdds.isNaN = false)
    (ordered : extended lower.logOdds ≤ extended upper.logOdds) :
    (fewer.foldl model.revised lower).logOdds.isNaN = false ∧
      (more.foldl model.revised upper).logOdds.isNaN = false ∧
      extended (fewer.foldl model.revised lower).logOdds ≤
        extended (more.foldl model.revised upper).logOdds := by
  induction hardens generalizing lower upper with
  | nil => exact ⟨lowerNumber, upperNumber, ordered⟩
  | cons first rest ih =>
      rw [List.foldl_cons, List.foldl_cons]
      exact ih (revised_not_nan usable lowerNumber _) (revised_not_nan usable upperNumber _)
        (revised_mono usable lowerNumber upperNumber first ordered)

theorem revised_toward_evidence (usable : model.Usable) (holds : model.Holds prior) :
    extended prior.logOdds ≤ extended (model.revised prior .occupied).logOdds ∧
      extended (model.revised prior .free).logOdds ≤ extended prior.logOdds := by
  obtain ⟨finite, low, high⟩ := (holds_iff usable prior).mp holds
  -- The belief is where its own number lands, so evidence can only move it to its side.
  have stays := landing_number finite
  have added (seen : Occupancy) := (shifts_add (usable.evidence_finite seen)).finite _ finite
  have lowExtended : extended model.low ≤ extended prior.logOdds := by
    rw [extended_of_finite usable.low_finite, extended_of_finite finite]
    exact line_mono low
  have highExtended : extended prior.logOdds ≤ extended model.high := by
    rw [extended_of_finite usable.high_finite, extended_of_finite finite]
    exact line_mono high
  rw [extended_observed usable holds.isNumber (by decide),
    extended_observed usable holds.isNumber (by decide)]
  constructor
  · refine le_max_of_le_right (le_min highExtended ?_)
    rw [added .occupied, ← stays]
    exact landing_mono (le_add_of_nonneg_right usable.hit.le)
  · refine max_le lowExtended ((min_le_right _ _).trans ?_)
    rw [added .free, ← stays]
    exact landing_mono (add_le_of_nonpos_right usable.miss.le)

/-- Revising is monotone. Of two beliefs in order, the lower one stays below the other when both
are revised by equally many observations, of which some may be an obstacle for the higher one
where they are free space for the lower one. Between the bounds a hit lowers no belief, and a
miss raises none. -/
theorem revising_monotone (sound : model.validate = .ok ()) :
    (∀ (lower upper : Belief) (fewer more : List Occupancy), lower.logOdds ≤ upper.logOdds →
      List.Forall₂ Occupancy.Hardens fewer more →
        ∃ below above, fewer.foldlM model.revise lower = .ok below ∧
          more.foldlM model.revise upper = .ok above ∧ below.logOdds ≤ above.logOdds) ∧
    ∀ prior : Belief, model.Holds prior →
      ∃ raised lowered, model.revise prior .occupied = .ok raised ∧
        model.revise prior .free = .ok lowered ∧
        prior.logOdds ≤ raised.logOdds ∧ lowered.logOdds ≤ prior.logOdds := by
  have usable := (validate_ok_iff model).mp sound
  constructor
  · intro lower upper fewer more ordered hardens
    obtain ⟨lowerNumber, upperNumber⟩ := not_nan_of_le ordered
    rw [le_iff_extended lowerNumber upperNumber] at ordered
    obtain ⟨belowNumber, aboveNumber, kept⟩ :=
      revised_run_mono usable hardens lowerNumber upperNumber ordered
    exact ⟨_, _, BeliefMap.revise_history usable fewer lower,
      BeliefMap.revise_history usable more upper,
      (le_iff_extended belowNumber aboveNumber).mpr kept⟩
  · intro prior holds
    obtain ⟨raised, lowered⟩ := revised_toward_evidence usable holds
    refine ⟨_, _, revise_ok usable prior _, revise_ok usable prior _, ?_, ?_⟩
    · exact (le_iff_extended holds.isNumber
        (revised_not_nan usable holds.isNumber _)).mpr raised
    · exact (le_iff_extended (revised_not_nan usable holds.isNumber _)
        holds.isNumber).mpr lowered

/-- Beliefs on both sides of zero, the higher one infinite, that fade while nothing is seen; and
one just below its bound. -/
theorem revising_monotone_across_zero :
    let model : SensorModel := { standard with decay := 0.5 }
    let fewer : List Occupancy := [.free, .unknown, .free, .occupied]
    let more : List Occupancy := [.occupied, .unknown, .free, .occupied]
    model.validate = .ok () ∧ (-0.25 : Float32) ≤ 1 / 0 ∧
      List.Forall₂ Occupancy.Hardens fewer more ∧
      (∃ below above, fewer.foldlM model.revise ⟨-0.25⟩ = .ok below ∧
        more.foldlM model.revise ⟨1 / 0⟩ = .ok above ∧ below.logOdds ≤ above.logOdds) ∧
      model.Holds ⟨3.4⟩ ∧
      ∃ raised lowered, model.revise ⟨3.4⟩ .occupied = .ok raised ∧
        model.revise ⟨3.4⟩ .free = .ok lowered ∧
        (3.4 : Float32) ≤ raised.logOdds ∧ lowered.logOdds ≤ 3.4 := by
  intro model fewer more
  have sound : model.validate = .ok () := by decide +kernel
  have ordered : (-0.25 : Float32) ≤ 1 / 0 := by decide +kernel
  have hardens : List.Forall₂ Occupancy.Hardens fewer more :=
    .cons (.inr ⟨rfl, rfl⟩) (.cons (.inl rfl) (.cons (.inl rfl) (.cons (.inl rfl) .nil)))
  have holds : model.Holds ⟨3.4⟩ := ⟨rfl, by decide +kernel, by decide +kernel⟩
  obtain ⟨runs, steps⟩ := revising_monotone sound
  exact ⟨sound, ordered, hardens, runs ⟨-0.25⟩ ⟨1 / 0⟩ fewer more ordered hardens, holds,
    steps ⟨3.4⟩ holds⟩

end SensorModel

end EvidenceGrid

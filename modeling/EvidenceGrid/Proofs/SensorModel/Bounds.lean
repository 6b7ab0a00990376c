import EvidenceGrid.Proofs.Binary32.Error
import EvidenceGrid.Proofs.Binary32.Extended
import EvidenceGrid.Proofs.SensorModel

/-!
Beliefs between the bounds of a usable model. Evidence brings every belief there that is not
NaN, an infinite one too, and also where the sum overflows. Fading moves a belief toward zero
at any rate and never past it, and zero lies between the bounds, so what is between them stays
there.
-/

set_option autoImplicit false

namespace EvidenceGrid

open Binary32

/-! ## Fading -/

section Fade

variable {belief : Belief} {rate : Float32}

theorem Binary32.Computes.finite_of_abs_le {result value : Float32} {exact : ℚ}
    (computes : Computes result exact) (finite : value.isFinite = true)
    (within : |exact| ≤ |number value|) : result.isFinite = true := by
  have grid := on_grid_number value.abs
  rw [(abs_value finite).2] at grid
  exact computes.finite_iff.mpr ((abs_rounded_le grid within).trans_lt (abs_number_lt finite))

theorem abs_toward_zero_le {start step : ℚ} (startNonneg : 0 ≤ start) (stepNonneg : 0 ≤ step) :
    |start - step| ≤ |start| ∨ |start - step| ≤ |step| := by
  rw [abs_of_nonneg startNonneg, abs_of_nonneg stepNonneg]
  rcases le_total step start with stays | crosses
  · left
    rw [abs_of_nonneg (sub_nonneg.mpr stays)]
    linarith
  · right
    rw [abs_of_nonpos (sub_nonpos.mpr crosses)]
    linarith

theorem fade_value (finite : belief.logOdds.isFinite = true) (rateFinite : rate.isFinite = true)
    (nonneg : 0 ≤ number rate) :
    (belief.fade rate).logOdds.isFinite = true ∧
      min (number belief.logOdds) 0 ≤ number (belief.fade rate).logOdds ∧
      number (belief.fade rate).logOdds ≤ max (number belief.logOdds) 0 := by
  have zeroFinite : (0 : Float32).isFinite = true := rfl
  have above := lt_iff zeroFinite finite
  have below := lt_iff finite zeroFinite
  rw [number_zero] at above below
  have fixed : rounded (number belief.logOdds) = number belief.logOdds :=
    rounded_of_on_grid (on_grid_number belief.logOdds)
  rw [Belief.fade]
  split_ifs with positive negative
  · rw [above] at positive
    have computes := sub_computes finite rateFinite
    have stepFinite : (belief.logOdds - rate).isFinite = true := by
      rcases abs_toward_zero_le positive.le nonneg with within | within
      · exact computes.finite_of_abs_le finite within
      · exact computes.finite_of_abs_le rateFinite within
    have lower := rounded_mono (sub_le_self (number belief.logOdds) nonneg)
    rw [fixed, ← computes.number_eq stepFinite] at lower
    obtain ⟨resultFinite, value⟩ := greater_value stepFinite zeroFinite
    rw [number_zero] at value
    refine ⟨resultFinite, ?_⟩
    rw [value]
    exact ⟨(min_le_right _ _).trans (le_max_right _ _), max_le_max_right 0 lower⟩
  · rw [below] at negative
    have computes := add_computes finite rateFinite
    have exact : |number belief.logOdds + number rate| =
        |-number belief.logOdds - number rate| := by
      rw [← abs_neg]
      congr 1
      ring
    have stepFinite : (belief.logOdds + rate).isFinite = true := by
      rcases abs_toward_zero_le (neg_nonneg.mpr negative.le) nonneg with within | within
      · rw [← exact, abs_neg] at within
        exact computes.finite_of_abs_le finite within
      · rw [← exact] at within
        exact computes.finite_of_abs_le rateFinite within
    have raise := rounded_mono (le_add_of_nonneg_right (a := number belief.logOdds) nonneg)
    rw [fixed, ← computes.number_eq stepFinite] at raise
    obtain ⟨resultFinite, value⟩ := lesser_value stepFinite zeroFinite
    rw [number_zero] at value
    refine ⟨resultFinite, ?_⟩
    rw [value]
    exact ⟨min_le_min_right 0 raise, (min_le_right _ _).trans (le_max_right _ _)⟩
  · exact ⟨finite, min_le_left _ _, le_max_left _ _⟩

theorem fade_not_nan (isNumber : belief.logOdds.isNaN = false) (rateFinite : rate.isFinite = true) :
    (belief.fade rate).logOdds.isNaN = false := by
  have zeroNumber : (0 : Float32).isNaN = false := rfl
  rw [Belief.fade]
  split_ifs with positive negative
  · exact not_nan_greater (not_nan_sub isNumber rateFinite) zeroNumber
  · exact not_nan_lesser (not_nan_add isNumber rateFinite) zeroNumber
  · exact isNumber

end Fade

/-! ## Revising -/

namespace SensorModel

/-- A belief that is a number between the model's bounds. -/
structure Holds (model : SensorModel) (belief : Belief) : Prop where
  isNumber : belief.logOdds.isNaN = false
  low : model.low ≤ belief.logOdds
  high : belief.logOdds ≤ model.high

variable {model : SensorModel} {prior : Belief}

theorem Usable.low_finite (usable : model.Usable) : model.low.isFinite = true :=
  usable.finite model.low (by simp [values])

theorem Usable.high_finite (usable : model.Usable) : model.high.isFinite = true :=
  usable.finite model.high (by simp [values])

theorem Usable.decay_finite (usable : model.Usable) : model.decay.isFinite = true :=
  usable.finite model.decay (by simp [values])

theorem Usable.occupied_extended (usable : model.Usable) :
    model.occupiedFrom.isNaN = false ∧ 0 < extended model.occupiedFrom := by
  have finite : model.occupiedFrom.isFinite = true := usable.finite _ (by simp [values])
  rw [extended_of_finite finite]
  exact ⟨not_nan_of_finite finite, by exact_mod_cast usable.occupied.1⟩

theorem Usable.free_extended (usable : model.Usable) :
    model.freeUpTo.isNaN = false ∧ extended model.freeUpTo < 0 := by
  have finite : model.freeUpTo.isFinite = true := usable.finite _ (by simp [values])
  rw [extended_of_finite finite]
  exact ⟨not_nan_of_finite finite, by exact_mod_cast usable.free.2⟩

theorem holds_iff (usable : model.Usable) (belief : Belief) : model.Holds belief ↔
    belief.logOdds.isFinite = true ∧ number model.low ≤ number belief.logOdds ∧
      number belief.logOdds ≤ number model.high := by
  constructor
  · intro holds
    have finite := finite_of_between holds.isNumber usable.low_finite usable.high_finite
      holds.low holds.high
    exact ⟨finite, (le_iff usable.low_finite finite).mp holds.low,
      (le_iff finite usable.high_finite).mp holds.high⟩
  · rintro ⟨finite, low, high⟩
    exact ⟨not_nan_of_finite finite, (le_iff usable.low_finite finite).mpr low,
      (le_iff finite usable.high_finite).mpr high⟩

theorem holds_unknown (usable : model.Usable) : model.Holds Belief.unknown := by
  rw [holds_iff usable]
  exact ⟨rfl, usable.low.le, usable.high.le⟩

/-- The number that an observation adds to a belief, or takes from its size when nothing is seen. -/
def evidence (model : SensorModel) : Occupancy → Float32
  | .occupied => model.hit
  | .free => model.miss
  | .unknown => model.decay

theorem Usable.evidence_finite (usable : model.Usable) (seen : Occupancy) :
    (model.evidence seen).isFinite = true := by
  cases seen <;> exact usable.finite _ (by simp [evidence, values])

theorem revised_observed (usable : model.Usable) (prior : Belief) {seen : Occupancy}
    (known : seen ≠ .unknown) : model.revised prior seen =
      ⟨clamp model.low model.high (prior.logOdds + model.evidence seen)⟩ := by
  have ordered := bounds_in_order usable
  cases seen with
  | unknown => exact absurd rfl known
  | free => simp [revised, revise, Belief.observe, clamp?, ordered, evidence]
  | occupied => simp [revised, revise, Belief.observe, clamp?, ordered, evidence]

theorem revised_unobserved (prior : Belief) :
    model.revised prior .unknown = if 0 < model.decay then prior.fade model.decay else prior := rfl

theorem holds_observed (usable : model.Usable) (isNumber : prior.logOdds.isNaN = false)
    {seen : Occupancy} (known : seen ≠ .unknown) : model.Holds (model.revised prior seen) := by
  rw [revised_observed usable prior known]
  obtain ⟨clampedNumber, low, high⟩ := clamp_between usable.low_finite usable.high_finite
    (bounds_in_order usable) (not_nan_add isNumber (usable.evidence_finite seen))
  exact ⟨clampedNumber, low, high⟩

theorem holds_revised (usable : model.Usable) (holds : model.Holds prior) (seen : Occupancy) :
    model.Holds (model.revised prior seen) := by
  by_cases known : seen = .unknown
  · subst known
    rw [revised_unobserved]
    split_ifs
    · obtain ⟨finite, low, high⟩ := (holds_iff usable prior).mp holds
      obtain ⟨fadedFinite, floor, ceiling⟩ := fade_value finite usable.decay_finite usable.decay
      exact (holds_iff usable _).mpr ⟨fadedFinite, (le_min low usable.low.le).trans floor,
        ceiling.trans (max_le high usable.high.le)⟩
    · exact holds
  · exact holds_observed usable holds.isNumber known

theorem revised_not_nan (usable : model.Usable) (isNumber : prior.logOdds.isNaN = false)
    (seen : Occupancy) : (model.revised prior seen).logOdds.isNaN = false := by
  by_cases known : seen = .unknown
  · subst known
    rw [revised_unobserved]
    split_ifs
    · exact fade_not_nan isNumber usable.decay_finite
    · exact isNumber
  · exact (holds_observed usable isNumber known).isNumber

end SensorModel

end EvidenceGrid

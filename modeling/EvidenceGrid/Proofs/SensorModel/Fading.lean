import EvidenceGrid.Proofs.SensorModel.Repetition

/-!
What becomes of a belief while nothing is seen of its cell. One such frame leaves it between
zero and where it was, and so do any number of them, since lying between is transitive. From
this alone follow its size, its sign and what it may be classified as: a belief between zero and
another one passes no threshold that the other does not pass. Beliefs may be infinite, and the
rate far larger than the belief.
-/

set_option autoImplicit false

namespace EvidenceGrid

open Binary32

/-! ## Between zero and a start -/

def TowardZero (start place : EReal) : Prop :=
  (0 ≤ start ∧ 0 ≤ place ∧ place ≤ start) ∨ (start ≤ 0 ∧ start ≤ place ∧ place ≤ 0)

section Between

variable {start place later : EReal}

theorem TowardZero.self (start : EReal) : TowardZero start start := by
  rcases le_total 0 start with nonneg | nonpos
  · exact Or.inl ⟨nonneg, nonneg, le_rfl⟩
  · exact Or.inr ⟨nonpos, le_rfl, nonpos⟩

theorem TowardZero.trans (first : TowardZero start place) (second : TowardZero place later) :
    TowardZero start later := by
  rcases first with ⟨above, nonneg, low⟩ | ⟨below, high, nonpos⟩
  · left
    rcases second with ⟨-, laterNonneg, laterLow⟩ | ⟨placeNonpos, laterHigh, laterNonpos⟩
    · exact ⟨above, laterNonneg, laterLow.trans low⟩
    · exact ⟨above, nonneg.trans laterHigh, laterNonpos.trans above⟩
  · right
    rcases second with ⟨placeNonneg, laterNonneg, laterLow⟩ | ⟨-, laterHigh, laterNonpos⟩
    · exact ⟨below, below.trans laterNonneg, laterLow.trans nonpos⟩
    · exact ⟨below, high.trans laterHigh, laterNonpos⟩

theorem TowardZero.size_le (toward : TowardZero start place) :
    max place (-place) ≤ max start (-start) := by
  rcases toward with ⟨above, nonneg, low⟩ | ⟨below, high, nonpos⟩
  · have opposite : -place ≤ place := (EReal.neg_le_zero.mpr nonneg).trans nonneg
    rw [max_eq_left opposite]
    exact low.trans (le_max_left _ _)
  · have opposite : place ≤ -place := nonpos.trans (EReal.neg_nonneg.mpr nonpos)
    rw [max_eq_right opposite]
    exact (EReal.neg_le_neg_iff.mpr high).trans (le_max_right _ _)

end Between

/-! ## One frame in which nothing is seen -/

section Fade

variable {belief : Belief} {rate : Float32}

theorem fade_toward_zero (isNumber : belief.logOdds.isNaN = false)
    (rateFinite : rate.isFinite = true) (nonneg : 0 ≤ number rate) :
    TowardZero (extended belief.logOdds) (extended (belief.fade rate).logOdds) := by
  have less := extended_sub_le rateFinite nonneg isNumber
  have more := le_extended_add rateFinite nonneg isNumber
  rw [extended_fade isNumber rateFinite]
  split_ifs with positive negative
  · exact Or.inl ⟨positive.le, le_max_right _ _, max_le less positive.le⟩
  · exact Or.inr ⟨negative.le, le_min more negative.le, min_le_right _ _⟩
  · exact TowardZero.self _

theorem fade_of_zero (isNumber : belief.logOdds.isNaN = false)
    (zero : extended belief.logOdds = 0) : belief.fade rate = belief := by
  have above := lt_iff_extended (show (0 : Float32).isNaN = false from rfl) isNumber
  have below := lt_iff_extended isNumber (show (0 : Float32).isNaN = false from rfl)
  rw [extended_zero, zero] at above below
  rw [Belief.fade, if_neg (mt above.mp (lt_irrefl 0)), if_neg (mt below.mp (lt_irrefl 0))]

end Fade

/-- A belief after some time in which nothing was observed: it is no larger than before, it has no
sign that it did not have before, and if it was at zero it is the same. -/
structure Belief.Fades (before after : Belief) : Prop where
  size : after.logOdds.abs ≤ before.logOdds.abs
  positive : 0 < after.logOdds → 0 < before.logOdds
  negative : after.logOdds < 0 → before.logOdds < 0
  still : (before.logOdds == 0) = true → after = before

namespace SensorModel

variable {model : SensorModel} {prior before after : Belief}

section Step

theorem unseen_toward_zero (usable : model.Usable) (isNumber : prior.logOdds.isNaN = false) :
    TowardZero (extended prior.logOdds) (extended (model.revised prior .unknown).logOdds) := by
  rw [revised_unobserved]
  split_ifs
  · exact fade_toward_zero isNumber usable.decay_finite usable.decay
  · exact TowardZero.self _

theorem unseen_of_zero (model : SensorModel) (isNumber : prior.logOdds.isNaN = false)
    (zero : extended prior.logOdds = 0) : model.revised prior .unknown = prior := by
  rw [revised_unobserved, fade_of_zero isNumber zero, ite_self]

theorem classify_toward_zero (usable : model.Usable) (beforeNumber : before.logOdds.isNaN = false)
    (afterNumber : after.logOdds.isNaN = false)
    (toward : TowardZero (extended before.logOdds) (extended after.logOdds)) :
    model.classify after = model.classify before ∨ model.classify after = .unknown := by
  obtain ⟨occupiedNumber, occupied⟩ := usable.occupied_extended
  obtain ⟨freeNumber, free⟩ := usable.free_extended
  have reads {belief : Belief} (isNumber : belief.logOdds.isNaN = false) : model.classify belief =
      if extended model.occupiedFrom ≤ extended belief.logOdds then .occupied
      else if extended belief.logOdds ≤ extended model.freeUpTo then .free else .unknown := by
    simp only [classify, le_iff_extended occupiedNumber isNumber,
      le_iff_extended isNumber freeNumber]
  rw [reads beforeNumber, reads afterNumber]
  rcases toward with ⟨-, nonneg, low⟩ | ⟨nonpos, high, afterNonpos⟩
  · have notFree := not_le.mpr (free.trans_le nonneg)
    by_cases reached : extended model.occupiedFrom ≤ extended after.logOdds
    · rw [if_pos reached, if_pos (reached.trans low)]
      exact Or.inl rfl
    · rw [if_neg reached, if_neg notFree]
      exact Or.inr rfl
  · have notOccupied := not_le.mpr (afterNonpos.trans_lt occupied)
    have neverOccupied := not_le.mpr (nonpos.trans_lt occupied)
    rw [if_neg notOccupied, if_neg neverOccupied]
    by_cases reached : extended after.logOdds ≤ extended model.freeUpTo
    · rw [if_pos reached, if_pos (high.trans reached)]
      exact Or.inl rfl
    · rw [if_neg reached]
      exact Or.inr rfl

end Step

/-! ## Any number of such frames -/

section Run

theorem unseen_run (usable : model.Usable) (isNumber : prior.logOdds.isNaN = false) (times : ℕ) :
    ((model.revised · .unknown)^[times] prior).logOdds.isNaN = false ∧
      TowardZero (extended prior.logOdds)
        (extended ((model.revised · .unknown)^[times] prior).logOdds) := by
  induction times with
  | zero => exact ⟨isNumber, TowardZero.self _⟩
  | succ times ih =>
      obtain ⟨number, toward⟩ := ih
      rw [Function.iterate_succ_apply']
      exact ⟨revised_not_nan usable number _, toward.trans (unseen_toward_zero usable number)⟩

theorem fades_of_toward_zero (beforeNumber : before.logOdds.isNaN = false)
    (afterNumber : after.logOdds.isNaN = false)
    (toward : TowardZero (extended before.logOdds) (extended after.logOdds))
    (still : extended before.logOdds = 0 → after = before) : before.Fades after := by
  have zeroNumber : (0 : Float32).isNaN = false := rfl
  obtain ⟨beforeAbs, beforeSize⟩ := extended_abs beforeNumber
  obtain ⟨afterAbs, afterSize⟩ := extended_abs afterNumber
  constructor
  · rw [le_iff_extended afterAbs beforeAbs, beforeSize, afterSize]
    exact toward.size_le
  · rw [lt_iff_extended zeroNumber afterNumber, lt_iff_extended zeroNumber beforeNumber,
      extended_zero]
    intro positive
    rcases toward with ⟨-, -, low⟩ | ⟨-, -, nonpos⟩
    · exact positive.trans_le low
    · exact absurd positive (not_lt.mpr nonpos)
  · rw [lt_iff_extended afterNumber zeroNumber, lt_iff_extended beforeNumber zeroNumber,
      extended_zero]
    intro negative
    rcases toward with ⟨-, nonneg, -⟩ | ⟨-, high, -⟩
    · exact absurd negative (not_lt.mpr nonneg)
    · exact high.trans_lt negative
  · rw [beq_iff_extended beforeNumber zeroNumber, extended_zero]
    exact still

end Run

/-- While nothing is seen of a cell its belief only fades. Between any two moments of such a run
it does not grow, keeps its sign or comes to be zero, and stays the same once it is zero; and it
is classified as before or as unknown, so it becomes neither free nor occupied. -/
theorem unseen_only_fades (sound : model.validate = .ok ()) (isNumber : prior.logOdds.isNaN = false)
    (times more : ℕ) :
    ∃ before after, model.repeated .unknown prior times = .ok before ∧
      model.repeated .unknown prior (times + more) = .ok after ∧ before.Fades after ∧
      (model.classify after = model.classify before ∨ model.classify after = .unknown) := by
  have usable := (validate_ok_iff model).mp sound
  set before := (model.revised · .unknown)^[times] prior with reached
  obtain ⟨beforeNumber, -⟩ := unseen_run usable isNumber times
  obtain ⟨afterNumber, toward⟩ := unseen_run usable beforeNumber more
  refine ⟨before, (model.revised · .unknown)^[more] before, repeated_ok usable .unknown prior times,
    ?_, ?_, classify_toward_zero usable beforeNumber afterNumber toward⟩
  · rw [repeated_ok usable, Nat.add_comm, Function.iterate_add_apply, ← reached]
  · exact fades_of_toward_zero beforeNumber afterNumber toward fun zero =>
      Function.iterate_fixed (unseen_of_zero model beforeNumber zero) more

/-- A free cell that is unknown after one frame and at zero after two. Fading past zero would have
it occupied after three. -/
theorem unseen_only_fades_at_zero :
    let model : SensorModel := { standard with decay := 0.75 }
    model.validate = .ok () ∧ (-1 : Float32).isNaN = false ∧ model.classify ⟨-1⟩ = .free ∧
      model.repeated .unknown ⟨-1⟩ 1 = .ok ⟨-0.25⟩ ∧ model.repeated .unknown ⟨-1⟩ 3 = .ok ⟨0⟩ ∧
      ∃ before after, model.repeated .unknown ⟨-1⟩ 1 = .ok before ∧
        model.repeated .unknown ⟨-1⟩ (1 + 2) = .ok after ∧ before.Fades after ∧
        (model.classify after = model.classify before ∨ model.classify after = .unknown) := by
  intro model
  have sound : model.validate = .ok () := by decide +kernel
  have isNumber : (-1 : Float32).isNaN = false := rfl
  exact ⟨sound, isNumber, by decide +kernel, by decide +kernel, by decide +kernel,
    unseen_only_fades sound isNumber 1 2⟩

end SensorModel

end EvidenceGrid

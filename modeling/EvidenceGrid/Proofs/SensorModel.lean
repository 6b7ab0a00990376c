import EvidenceGrid.SensorModel
import EvidenceGrid.Proofs.Binary32.Whole

/-!
What the checks of a sensor model say about its numbers, and that a model which
passes them revises every belief by every observation: its bounds are in order,
so holding a sum between them never fails.
-/

set_option autoImplicit false

namespace EvidenceGrid.SensorModel

open EvidenceGrid.Binary32

structure Usable (model : SensorModel) : Prop where
  finite : ∀ value ∈ model.values, value.isFinite = true
  hit : 0 < number model.hit
  miss : number model.miss < 0
  low : number model.low < 0
  high : 0 < number model.high
  decay : 0 ≤ number model.decay
  free : number model.low ≤ number model.freeUpTo ∧ number model.freeUpTo < 0
  occupied : 0 < number model.occupiedFrom ∧ number model.occupiedFrom ≤ number model.high

theorem validate_ok_iff (model : SensorModel) : model.validate = .ok () ↔ model.Usable := by
  by_cases finite : ∀ value ∈ model.values, value.isFinite = true
  · have checked : model.values.any (fun value => !value.isFinite) = false := by
      rw [List.any_eq_false]
      intro value member
      simp [finite value member]
    have hitFinite := finite model.hit (by simp [values])
    have missFinite := finite model.miss (by simp [values])
    have lowFinite := finite model.low (by simp [values])
    have highFinite := finite model.high (by simp [values])
    have decayFinite := finite model.decay (by simp [values])
    have occupiedFinite := finite model.occupiedFrom (by simp [values])
    have freeFinite := finite model.freeUpTo (by simp [values])
    have zeroFinite : (0 : Float32).isFinite = true := rfl
    have hit := le_iff hitFinite zeroFinite
    have miss := le_iff zeroFinite missFinite
    have low := lt_iff lowFinite zeroFinite
    have high := lt_iff zeroFinite highFinite
    have decay := lt_iff decayFinite zeroFinite
    have lowFree := le_iff lowFinite freeFinite
    have free := lt_iff freeFinite zeroFinite
    have occupied := lt_iff zeroFinite occupiedFinite
    have occupiedHigh := le_iff occupiedFinite highFinite
    rw [number_zero] at hit miss low high decay free occupied
    rw [validate, checked, if_neg Bool.false_ne_true]
    constructor
    · intro passed
      split_ifs at passed with badHit badMiss badBounds badDecay badThresholds
      simp only [Bool.not_eq_true', Bool.not_eq_false, Bool.and_eq_true, decide_eq_true_eq]
        at badBounds badThresholds
      exact ⟨finite, not_le.mp (mt hit.mpr badHit), not_le.mp (mt miss.mpr badMiss),
        low.mp badBounds.1, high.mp badBounds.2, not_lt.mp (mt decay.mpr badDecay),
        ⟨lowFree.mp badThresholds.1.1.1, free.mp badThresholds.1.1.2⟩,
        occupied.mp badThresholds.1.2, occupiedHigh.mp badThresholds.2⟩
    · intro usable
      have inOrder : (model.low < 0 && 0 < model.high) = true := by
        simp [low.mpr usable.low, high.mpr usable.high]
      have thresholds : (model.low ≤ model.freeUpTo && model.freeUpTo < 0
          && 0 < model.occupiedFrom && model.occupiedFrom ≤ model.high) = true := by
        simp [lowFree.mpr usable.free.1, free.mpr usable.free.2, occupied.mpr usable.occupied.1,
          occupiedHigh.mpr usable.occupied.2]
      rw [if_neg (mt hit.mp (not_le.mpr usable.hit)),
        if_neg (mt miss.mp (not_le.mpr usable.miss)), if_neg (by simp [inOrder]),
        if_neg (mt decay.mp (not_lt.mpr usable.decay)), if_neg (by simp [thresholds])]
  · have checked : model.values.any (fun value => !value.isFinite) = true := by
      rw [List.any_eq_true]
      push Not at finite
      obtain ⟨value, member, infinite⟩ := finite
      exact ⟨value, member, by simp [infinite]⟩
    rw [validate, if_pos checked]
    exact ⟨fun passed => (by cases passed), fun usable => absurd usable.finite finite⟩

section Revise

variable {model : SensorModel}

/-- The revision of a belief, which keeps the belief when bounds are not in order. -/
def revised (model : SensorModel) (prior : Belief) (seen : Occupancy) : Belief :=
  match model.revise prior seen with
  | .ok belief => belief
  | .error _ => prior

theorem bounds_in_order (usable : model.Usable) : model.low ≤ model.high := by
  have lowFinite := usable.finite model.low (by simp [values])
  have highFinite := usable.finite model.high (by simp [values])
  rw [le_iff lowFinite highFinite]
  exact (usable.low.trans usable.high).le

theorem revise_ok (usable : model.Usable) (prior : Belief) (seen : Occupancy) :
    model.revise prior seen = .ok (model.revised prior seen) := by
  have ordered := bounds_in_order usable
  cases seen <;> simp [revised, revise, Belief.observe, clamp?, ordered]

theorem revised_unknown (model : SensorModel) :
    model.revised Belief.unknown .unknown = Belief.unknown := by
  have faded (rate : Float32) : Belief.unknown.fade rate = Belief.unknown := rfl
  rw [revised, revise]
  split_ifs <;> simp [faded]

end Revise

end EvidenceGrid.SensorModel

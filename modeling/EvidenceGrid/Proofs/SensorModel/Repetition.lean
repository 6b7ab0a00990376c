import EvidenceGrid.Proofs.Binary32.Approach
import EvidenceGrid.Proofs.Binary32.Zero
import EvidenceGrid.Proofs.SensorModel.Monotone

/-!
The same observation made again and again. It has a goal, which is the bound on its side or
zero when nothing is seen, and each time it brings a belief nearer to the goal or leaves it
where it is. So beliefs always come to rest, but not always at the goal: a belief `2 ^ 24` times
as large as the evidence may hold it off, since their sum rounds back to the belief.
-/

set_option autoImplicit false

namespace EvidenceGrid.SensorModel

open Binary32

/-- Where an observation leads a belief when it is made often enough. -/
def goal (model : SensorModel) : Occupancy → Float32
  | .occupied => model.high
  | .free => model.low
  | .unknown => 0

/-- How far an observation brings a belief, but for rounding. -/
def pace (model : SensorModel) (seen : Occupancy) : ℚ := |number (model.evidence seen)|

def AtGoal (model : SensorModel) (seen : Occupancy) (belief : Belief) : Prop :=
  (belief.logOdds == model.goal seen) = true

def Active (model : SensorModel) (seen : Occupancy) : Prop := seen = .unknown → 0 < model.decay

def repeated (model : SensorModel) (seen : Occupancy) (prior : Belief) (times : Nat) :
    Except Fault Belief :=
  (List.replicate times seen).foldlM model.revise prior

/-- Whether an observation that is made often enough brings a belief to the goal for good. -/
def Reaches (model : SensorModel) (seen : Occupancy) (prior : Belief) : Prop :=
  ∃ times, ∀ more, ∃ belief, model.repeated seen prior (times + more) = .ok belief ∧
    model.AtGoal seen belief

variable {model : SensorModel} {prior : Belief} {seen : Occupancy}

section Step

theorem Usable.goal_finite (usable : model.Usable) (seen : Occupancy) :
    (model.goal seen).isFinite = true := by
  cases seen with
  | unknown => exact (rfl : (0 : Float32).isFinite = true)
  | free => exact usable.low_finite
  | occupied => exact usable.high_finite

theorem at_goal_iff (usable : model.Usable) (finite : prior.logOdds.isFinite = true) :
    model.AtGoal seen prior ↔ number prior.logOdds = number (model.goal seen) :=
  beq_iff finite (usable.goal_finite seen)

theorem classify_at_goal (usable : model.Usable) (holds : model.Holds prior)
    (goal : model.AtGoal seen prior) : model.classify prior = seen := by
  obtain ⟨finite, -, -⟩ := (holds_iff usable prior).mp holds
  have same := (at_goal_iff usable finite).mp goal
  have occupied : model.occupiedFrom ≤ prior.logOdds ↔ _ :=
    le_iff (usable.finite _ (by simp [values])) finite
  have free : prior.logOdds ≤ model.freeUpTo ↔ _ :=
    le_iff finite (usable.finite _ (by simp [values]))
  rw [same] at occupied free
  obtain ⟨bottom, negative⟩ := usable.free
  obtain ⟨positive, top⟩ := usable.occupied
  rw [classify]
  cases seen with
  | occupied => exact if_pos (occupied.mpr top)
  | free =>
      have apart := not_le.mpr (usable.low.trans positive)
      rw [if_neg (mt occupied.mp apart), if_pos (free.mpr bottom)]
  | unknown =>
      have zero : number (model.goal .unknown) = 0 := number_zero
      rw [zero] at occupied free
      rw [if_neg (mt occupied.mp (not_le.mpr positive)),
        if_neg (mt free.mp (not_le.mpr negative))]

theorem pace_positive (usable : model.Usable) (active : model.Active seen) :
    0 < model.pace seen := by
  rw [pace, abs_pos]
  cases seen with
  | occupied => exact usable.hit.ne'
  | free => exact usable.miss.ne
  | unknown =>
      have faster := (lt_iff (show (0 : Float32).isFinite = true from rfl) usable.decay_finite).mp
        (active rfl)
      rw [number_zero] at faster
      exact faster.ne'

theorem pace_on_grid (model : SensorModel) (seen : Occupancy) : OnGrid (model.pace seen) := by
  rw [pace]
  rcases abs_choice (number (model.evidence seen)) with same | same
  · rw [same]
    exact on_grid_number _
  · rw [same]
    exact on_grid_neg (on_grid_number _)

theorem number_of_extended {value : Float32} {exact : ℚ} (finite : value.isFinite = true)
    (same : extended value = ((exact : ℝ) : EReal)) : number value = exact := by
  rw [extended_of_finite finite] at same
  exact_mod_cast same

theorem faded_number (usable : model.Usable) (holds : model.Holds prior) :
    number (prior.fade model.decay).logOdds =
      nearer 0 (number model.decay) (number prior.logOdds) := by
  obtain ⟨finite, -, -⟩ := (holds_iff usable prior).mp holds
  have grid := on_grid_number prior.logOdds
  have fits := abs_number_lt finite
  have zeroFits : |(0 : ℚ)| < 2 ^ 128 := by norm_num
  have self := landing_number finite
  rw [extended_of_finite finite] at self
  apply number_of_extended (fade_value finite usable.decay_finite usable.decay).1
  rw [extended_fade holds.isNumber usable.decay_finite, extended_of_finite finite, nearer]
  -- The sum or difference lies on the near side of the belief, so it does not overflow.
  rcases lt_trichotomy (number prior.logOdds) 0 with negative | zero | positive
  · have step := (shifts_add usable.decay_finite).finite _ finite
    have kept := landing_mono (le_add_of_nonneg_right (a := number prior.logOdds) usable.decay)
    have held := held_landing fits zeroFits (number prior.logOdds + number model.decay)
    have below : ((number prior.logOdds : ℝ) : EReal) < 0 := by exact_mod_cast negative
    rw [self] at kept
    rw [Rat.cast_zero, EReal.coe_zero, max_eq_right (le_min below.le kept),
      max_eq_right (le_min negative.le (le_rounded_add grid usable.decay))] at held
    rw [if_neg (not_lt.mpr below.le), if_pos below, if_pos negative.le, step, min_comm]
    exact held
  · rw [zero, Rat.cast_zero, EReal.coe_zero, if_neg (lt_irrefl _), if_neg (lt_irrefl _),
      if_pos le_rfl, min_eq_left (le_rounded_add on_grid_zero usable.decay), Rat.cast_zero,
      EReal.coe_zero]
  · have step := (shifts_sub usable.decay_finite).finite _ finite
    have kept := landing_mono (sub_le_self (number prior.logOdds) usable.decay)
    have held := held_landing zeroFits fits (number prior.logOdds - number model.decay)
    have above : 0 < ((number prior.logOdds : ℝ) : EReal) := by exact_mod_cast positive
    rw [self] at kept
    rw [Rat.cast_zero, EReal.coe_zero, min_eq_right kept,
      min_eq_right (rounded_sub_le grid usable.decay)] at held
    rw [if_pos above, if_neg (not_le.mpr positive), step, ← sub_eq_add_neg, max_comm]
    exact held

theorem observed_number (usable : model.Usable) (holds : model.Holds prior)
    (known : seen ≠ .unknown) : number (model.revised prior seen).logOdds =
      max (number model.low) (min (number model.high)
        (rounded (number prior.logOdds + number (model.evidence seen)))) := by
  obtain ⟨finite, -, -⟩ := (holds_iff usable prior).mp holds
  apply number_of_extended ((holds_iff usable _).mp (holds_revised usable holds seen)).1
  rw [extended_observed usable holds.isNumber known,
    (shifts_add (usable.evidence_finite seen)).finite _ finite,
    extended_of_finite usable.low_finite, extended_of_finite usable.high_finite]
  exact held_landing (abs_number_lt usable.low_finite) (abs_number_lt usable.high_finite) _

theorem revised_number (usable : model.Usable) (holds : model.Holds prior)
    (active : model.Active seen) : number (model.revised prior seen).logOdds =
      nearer (number (model.goal seen)) (model.pace seen) (number prior.logOdds) := by
  obtain ⟨-, low, high⟩ := (holds_iff usable prior).mp holds
  have grid := on_grid_number prior.logOdds
  cases seen with
  | unknown =>
      have pace : model.pace .unknown = number model.decay := abs_of_nonneg usable.decay
      have goal : number (model.goal .unknown) = 0 := number_zero
      rw [revised_unobserved, if_pos (active rfl), pace, goal]
      exact faded_number usable holds
  | occupied =>
      have pace : model.pace .occupied = number model.hit := abs_of_pos usable.hit
      have up := le_min high (le_rounded_add grid usable.hit.le)
      rw [observed_number usable holds (by decide), pace, goal, evidence, nearer, if_pos high,
        max_eq_right (low.trans up)]
  | free =>
      have pace : model.pace .free = -number model.miss := abs_of_neg usable.miss
      have down := rounded_sub_le grid (neg_nonneg.mpr usable.miss.le)
      rw [sub_neg_eq_add] at down
      rw [observed_number usable holds (by decide), pace, goal, evidence, nearer, sub_neg_eq_add,
        min_eq_right (down.trans high)]
      split_ifs with bottom
      · -- At the bound a step in either direction leads nowhere.
        have start : number prior.logOdds = number model.low := le_antisymm bottom low
        rw [start] at down ⊢
        rw [max_eq_left down, min_eq_left]
        exact le_rounded_add (on_grid_number _) (neg_nonneg.mpr usable.miss.le)
      · rfl

theorem revised_of_rest (usable : model.Usable) (holds : model.Holds prior)
    (active : model.Active seen)
    (rest : number (model.revised prior seen).logOdds = number prior.logOdds) :
    model.revised prior seen = prior := by
  obtain ⟨finite, -, -⟩ := (holds_iff usable prior).mp holds
  obtain ⟨revisedFinite, -, -⟩ := (holds_iff usable _).mp (holds_revised usable holds seen)
  have zeroFinite : (0 : Float32).isFinite = true := rfl
  by_cases zero : number prior.logOdds = 0
  · -- Evidence always moves a belief away from zero, and fading leaves it there.
    by_cases known : seen = .unknown
    · subst known
      have still : ¬0 < prior.logOdds ∧ ¬prior.logOdds < 0 := by
        rw [lt_iff zeroFinite finite, lt_iff finite zeroFinite, number_zero, zero]
        exact ⟨lt_irrefl 0, lt_irrefl 0⟩
      rw [revised_unobserved, Belief.fade, if_neg still.1, if_neg still.2, ite_self]
    · have positive := pace_positive usable active
      rw [revised_number usable holds active, zero] at rest
      rcases rest_cases on_grid_zero (pace_on_grid model seen) positive rest with goal | large
      · cases seen with
        | unknown => exact absurd rfl known
        | occupied => exact absurd goal usable.high.ne
        | free => exact absurd goal usable.low.ne'
      · rw [abs_zero] at large
        linarith
  · have signed {value : Float32} (nonzero : number value ≠ 0) : value ≠ -0 := by
      rintro rfl
      exact nonzero rfl
    have same := eq_of_number_eq revisedFinite finite (signed (rest ▸ zero)) (signed zero) rest
    cases revised : model.revised prior seen
    rw [revised] at same
    cases prior
    exact congrArg Belief.mk same

end Step

section Run

theorem holds_repeated (usable : model.Usable) (holds : model.Holds prior) (seen : Occupancy)
    (times : Nat) : model.Holds ((model.revised · seen)^[times] prior) := by
  induction times with
  | zero => exact holds
  | succ times ih =>
      rw [Function.iterate_succ_apply']
      exact holds_revised usable ih seen

theorem repeated_ok (usable : model.Usable) (seen : Occupancy) (prior : Belief) (times : Nat) :
    model.repeated seen prior times = .ok ((model.revised · seen)^[times] prior) := by
  rw [repeated, BeliefMap.revise_history usable]
  congr 1
  induction times generalizing prior with
  | zero => rfl
  | succ times ih => rw [List.replicate_succ, List.foldl_cons, ih, Function.iterate_succ_apply]

theorem repeated_number (usable : model.Usable) (holds : model.Holds prior)
    (active : model.Active seen) (times : Nat) :
    number ((model.revised · seen)^[times] prior).logOdds =
      (nearer (number (model.goal seen)) (model.pace seen))^[times] (number prior.logOdds) := by
  induction times with
  | zero => rfl
  | succ times ih =>
      rw [Function.iterate_succ_apply', Function.iterate_succ_apply', ← ih]
      exact revised_number usable (holds_repeated usable holds seen times) active

theorem repeated_of_rest {settled : Belief} {times : Nat}
    (reached : (model.revised · seen)^[times] prior = settled)
    (rest : model.revised settled seen = settled) (more : Nat) :
    (model.revised · seen)^[times + more] prior = settled := by
  rw [Nat.add_comm, Function.iterate_add_apply, reached]
  exact Function.iterate_fixed rest more

theorem repetition_rests (usable : model.Usable) (holds : model.Holds prior)
    (active : model.Active seen) : ∃ times settled,
      (model.revised · seen)^[times] prior = settled ∧ model.revised settled seen = settled := by
  have positive := pace_positive usable active
  obtain ⟨times, rest⟩ := walk_rests (on_grid_number (model.goal seen))
    (on_grid_number prior.logOdds) positive.le
  refine ⟨times, _, rfl, ?_⟩
  have holdsThere := holds_repeated usable holds seen times
  apply revised_of_rest usable holdsThere active
  rw [revised_number usable holdsThere active, repeated_number usable holds active, rest]

theorem reaches_iff (usable : model.Usable) {settled : Belief} {times : Nat}
    (reached : (model.revised · seen)^[times] prior = settled)
    (rest : model.revised settled seen = settled) :
    model.Reaches seen prior ↔ model.AtGoal seen settled := by
  constructor
  · rintro ⟨enough, kept⟩
    obtain ⟨belief, made, goal⟩ := kept times
    rw [repeated_ok usable, Nat.add_comm, repeated_of_rest reached rest] at made
    cases made
    exact goal
  · intro goal
    refine ⟨times, fun more => ⟨settled, ?_, goal⟩⟩
    rw [repeated_ok usable, repeated_of_rest reached rest]

theorem revise_eq_self_iff (usable : model.Usable) (belief : Belief) :
    model.revise belief seen = .ok belief ↔ model.revised belief seen = belief := by
  rw [revise_ok usable, Except.ok.injEq]

theorem reaches_iff_unheld (usable : model.Usable) (holds : model.Holds prior)
    (active : model.Active seen) : model.Reaches seen prior ↔
      ∀ times belief, model.repeated seen prior times = .ok belief →
        model.revise belief seen = .ok belief → model.AtGoal seen belief := by
  constructor
  · intro reaches times belief made rest
    rw [repeated_ok usable, Except.ok.injEq] at made
    rw [revise_eq_self_iff usable] at rest
    exact (reaches_iff usable made rest).mp reaches
  · intro unheld
    obtain ⟨times, settled, made, rest⟩ := repetition_rests usable holds active
    refine (reaches_iff usable made rest).mpr (unheld times settled ?_ ?_)
    · rw [repeated_ok usable, made]
    · rwa [revise_eq_self_iff usable]

theorem reaches_of_small (usable : model.Usable) (holds : model.Holds prior)
    (active : model.Active seen) (priorSmall : |number prior.logOdds| < 2 ^ 24 * model.pace seen)
    (goalSmall : |number (model.goal seen)| < 2 ^ 24 * model.pace seen) :
    model.Reaches seen prior := by
  obtain ⟨times, settled, made, rest⟩ := repetition_rests usable holds active
  have settledHolds : model.Holds settled := made ▸ holds_repeated usable holds seen times
  obtain ⟨finite, -, -⟩ := (holds_iff usable settled).mp settledHolds
  rw [reaches_iff usable made rest, at_goal_iff usable finite]
  have walked := repeated_number usable holds active times
  have still := revised_number usable settledHolds active
  rw [made] at walked
  rw [rest, walked] at still
  rw [walked]
  exact walk_reaches (on_grid_number _) (on_grid_number _) (pace_on_grid model seen)
    (pace_positive usable active) priorSmall goalSmall still.symm

theorem small_of_reaches (usable : model.Usable) (holds : model.Holds prior)
    (active : model.Active seen) (reaches : model.Reaches seen prior) :
    model.AtGoal seen prior ∨ |number prior.logOdds| < 2 ^ 26 * model.pace seen ∧
      |number (model.goal seen)| < 2 ^ 26 * model.pace seen := by
  obtain ⟨times, kept⟩ := reaches
  obtain ⟨belief, made, goal⟩ := kept 0
  rw [repeated_ok usable, Except.ok.injEq] at made
  have beliefHolds : model.Holds belief := made ▸ holds_repeated usable holds seen times
  rw [at_goal_iff usable ((holds_iff usable belief).mp beliefHolds).1, ← made,
    repeated_number usable holds active] at goal
  rw [at_goal_iff usable ((holds_iff usable prior).mp holds).1]
  have positive := pace_positive usable active
  exact size_of_walk_reached (on_grid_number _) (on_grid_number _) positive goal

end Run

/-- Repeating an observation brings every belief between the bounds to rest. It reaches its goal,
where a belief counts as what was observed, from all of these beliefs or from one of them exactly
when no other belief absorbs the observation: none at all, or none on the way. So it always does
while belief and goal are less than `2 ^ 24` times as large as the evidence, and from `2 ^ 26`
times on it never does, except where it began. -/
theorem repetition_settles (sound : model.validate = .ok ()) (active : model.Active seen) :
    (∀ belief, model.Holds belief → model.AtGoal seen belief → model.classify belief = seen) ∧
    ((∀ prior, model.Holds prior → model.Reaches seen prior) ↔
      ∀ belief, model.Holds belief → model.revise belief seen = .ok belief →
        model.AtGoal seen belief) ∧
    ∀ prior, model.Holds prior →
      (∃ times settled, ∀ more, model.repeated seen prior (times + more) = .ok settled) ∧
      (model.Reaches seen prior ↔ ∀ times belief, model.repeated seen prior times = .ok belief →
        model.revise belief seen = .ok belief → model.AtGoal seen belief) ∧
      (|number prior.logOdds| < 2 ^ 24 * model.pace seen →
        |number (model.goal seen)| < 2 ^ 24 * model.pace seen → model.Reaches seen prior) ∧
      (model.Reaches seen prior → model.AtGoal seen prior ∨
        |number prior.logOdds| < 2 ^ 26 * model.pace seen ∧
          |number (model.goal seen)| < 2 ^ 26 * model.pace seen) := by
  have usable := (validate_ok_iff model).mp sound
  refine ⟨fun belief holds goal => classify_at_goal usable holds goal, ?_, ?_⟩
  · constructor
    · intro reaches belief holds rest
      have unheld := (reaches_iff_unheld usable holds active).mp (reaches belief holds)
      exact unheld 0 belief rfl rest
    · intro unheld prior holds
      rw [reaches_iff_unheld usable holds active]
      intro times belief made rest
      rw [repeated_ok usable, Except.ok.injEq] at made
      exact unheld belief (made ▸ holds_repeated usable holds seen times) rest
  · intro prior holds
    obtain ⟨times, settled, made, rest⟩ := repetition_rests usable holds active
    refine ⟨⟨times, settled, fun more => ?_⟩, reaches_iff_unheld usable holds active,
      reaches_of_small usable holds active, small_of_reaches usable holds active⟩
    rw [repeated_ok usable, repeated_of_rest made rest]

/-- Evidence far below the precision of a belief that is short of its bound: whatever is observed
there makes no difference. -/
theorem repetition_stalls :
    let model : SensorModel := { standard with hit := 1e-7, miss := -1e-7, decay := 1e-7 }
    model.validate = .ok () ∧ model.Holds ⟨3.4999998⟩ ∧
      ∀ seen, model.Active seen ∧ ¬model.Reaches seen ⟨3.4999998⟩ := by
  intro model
  have sound : model.validate = .ok () := by decide +kernel
  have usable := (validate_ok_iff model).mp sound
  have fades : (0 : Float32) < 1e-7 := by decide +kernel
  refine ⟨sound, ⟨rfl, by decide +kernel, by decide +kernel⟩, fun seen => ⟨fun _ => fades, ?_⟩⟩
  have held : model.revised ⟨3.4999998⟩ seen = ⟨3.4999998⟩ := by
    rw [← revise_eq_self_iff usable]
    cases seen <;> decide +kernel
  have start : (model.revised · seen)^[0] ⟨3.4999998⟩ = ⟨3.4999998⟩ := rfl
  rw [reaches_iff usable start held, AtGoal]
  cases seen <;> decide +kernel

theorem repetition_settles_units :
    let model : SensorModel :=
      { standard with hit := 1, miss := -1, low := -1, high := 1, decay := 1 }
    model.validate = .ok () ∧ model.Holds ⟨1⟩ ∧
      ∀ seen, model.Active seen ∧ model.Reaches seen ⟨1⟩ := by
  intro model
  have sound : model.validate = .ok () := by decide +kernel
  have holds : model.Holds ⟨1⟩ := ⟨rfl, by decide +kernel, by decide +kernel⟩
  have fades : (0 : Float32) < 1 := by decide +kernel
  have below : number (-1) = -1 := by
    have unpacked : (-1 : Float32).toModel.unpack =
        .finite .negative 8388608 (-23) (by norm_num) := rfl
    rw [number, unpacked]
    norm_num [unpackedNumber, Float.Model.UnpackedFloat.Sign.apply]
  have pace (seen : Occupancy) : model.pace seen = 1 := by
    cases seen with
    | occupied => exact (congrArg abs number_one).trans abs_one
    | free => exact (congrArg abs below).trans (by norm_num)
    | unknown => exact (congrArg abs number_one).trans abs_one
  have goal (seen : Occupancy) : |number (model.goal seen)| ≤ 1 := by
    cases seen with
    | occupied => exact ((congrArg abs number_one).trans abs_one).le
    | free => exact ((congrArg abs below).trans (by norm_num)).le
    | unknown => exact ((congrArg abs number_zero).trans abs_zero).le.trans zero_le_one
  refine ⟨sound, holds, fun seen => ?_⟩
  have active : model.Active seen := fun _ => fades
  refine ⟨active, ?_⟩
  obtain ⟨-, -, settles⟩ := repetition_settles sound active
  obtain ⟨-, -, reaches, -⟩ := settles ⟨1⟩ holds
  have large : (1 : ℚ) < 2 ^ 24 * 1 := by norm_num
  apply reaches
  · rw [pace, number_one, abs_one]
    exact large
  · rw [pace]
    exact (goal seen).trans_lt large

end EvidenceGrid.SensorModel

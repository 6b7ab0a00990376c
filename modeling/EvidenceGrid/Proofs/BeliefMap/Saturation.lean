import EvidenceGrid.Proofs.BeliefMap.History
import EvidenceGrid.Proofs.SensorModel.Bounds

/-!
Saturation over whole runs. A map that starts with nothing known keeps every belief between
the bounds of its model. A map that starts from an earlier survey may hold any numbers, also
infinite ones; the belief in a place of the ground is then between the bounds from the first
moment on at which the place was seen free or occupied, was out of the window, or was
forgotten. Only NaN would stay for ever, and no run makes one.
-/

set_option autoImplicit false

namespace EvidenceGrid.BeliefMap

def Moment.Settles (lattice : Lattice) (ground : Offset) (moment : Moment) : Prop :=
  Moment.keeps lattice ground moment = false ∨
    ∃ seen, moment.event.seenAt? (ground - moment.corner) = some seen ∧ seen ≠ .unknown

/-- Whether the belief in a place of the ground is due to be between bounds: it was so in
the first window, or is so by one of the moments since. -/
def Settled (start : Grid Belief) (model : SensorModel) (events : List Event) (ground : Offset) :
    Prop :=
  (∀ prior, start.valueAt? ground = some prior → model.Holds prior) ∨
    ∃ moment ∈ moments events, moment.Settles start.lattice ground

section Settled

variable {start : Grid Belief} {model : SensorModel} {events : List Event} {event : Event}
  {ground : Offset}

theorem settled_snoc_iff : Settled start model (events ++ [event]) ground ↔
    Settled start model events ground ∨
      Moment.Settles start.lattice ground ⟨corner (events ++ [event]), event⟩ := by
  rw [Settled, Settled, moments_snoc, or_assoc]
  apply or_congr_right
  simp only [List.mem_append, List.mem_singleton]
  constructor
  · rintro ⟨moment, before | rfl, settles⟩
    · exact Or.inl ⟨moment, before, settles⟩
    · exact Or.inr settles
  · rintro (⟨moment, before, settles⟩ | settles)
    · exact ⟨moment, Or.inl before, settles⟩
    · exact ⟨_, Or.inr rfl, settles⟩

theorem settled_snoc_covered {place : Offset} (covers : start.lattice.Covers place)
    (kept : event.forgets = false)
    (settled : Settled start model (events ++ [event]) (place + corner (events ++ [event]))) :
    Settled start model events (place + corner (events ++ [event])) ∨
      ∃ seen, event.seenAt? place = some seen ∧ seen ≠ .unknown := by
  have here : place + corner (events ++ [event]) - corner (events ++ [event]) = place :=
    Offset.add_sub_cancel_right _ _
  rcases settled_snoc_iff.mp settled with before | lost | observed
  · exact Or.inl before
  · simp [Moment.keeps, here, covers, kept] at lost
  · rw [here] at observed
    exact Or.inr observed

end Settled

/-- What a run keeps: no belief is NaN, and the belief in settled ground is between the
bounds. -/
structure Saturates (start : Grid Belief) (model : SensorModel) (map : BeliefMap)
    (events : List Event) : Prop where
  model_eq : map.model = model
  sides : map.grid.lattice.width = start.lattice.width ∧
    map.grid.lattice.height = start.lattice.height
  value : ∀ place, start.lattice.Covers place → ∃ belief, map.grid.valueAt? place = some belief ∧
    belief.logOdds.isNaN = false ∧
    (Settled start model events (place + corner events) → model.Holds belief)

section Saturates

variable {start : Grid Belief} {model : SensorModel} {map : BeliefMap} {events : List Event}

theorem saturates_reset (usable : model.Usable) (saturates : Saturates start model map events) :
    Saturates start model map.reset (events ++ [.forgotten]) := by
  refine ⟨saturates.model_eq, saturates.sides, ?_⟩
  intro place covers
  have holds := SensorModel.holds_unknown usable
  exact ⟨_, reset_value ((covers_of_sides saturates.sides place).mpr covers), holds.isNumber,
    fun _ => holds⟩

theorem saturates_refused (saturates : Saturates start model map events) (fault : Fault) :
    Saturates start model map (events ++ [.refused fault]) := by
  refine ⟨saturates.model_eq, saturates.sides, ?_⟩
  intro place covers
  have cornerEq : corner (events ++ [.refused fault]) = corner events :=
    (corner_snoc events (.refused fault)).trans (Offset.add_zero _)
  obtain ⟨belief, value, isNumber, holds⟩ := saturates.value place covers
  refine ⟨belief, value, isNumber, ?_⟩
  intro settled
  rcases settled_snoc_covered covers rfl settled with before | ⟨seen, observed, -⟩
  · rw [cornerEq] at before
    exact holds before
  · cases observed

theorem saturated_prior (usable : model.Usable) (saturates : Saturates start model map events)
    (place : Offset) :
    ((map.grid.valueAt? place).getD .unknown).logOdds.isNaN = false ∧
      (Settled start model events (place + corner events) →
        model.Holds ((map.grid.valueAt? place).getD .unknown)) := by
  by_cases covers : start.lattice.Covers place
  · obtain ⟨belief, value, isNumber, holds⟩ := saturates.value place covers
    rw [value, Option.getD_some]
    exact ⟨isNumber, holds⟩
  · have outside := mt (covers_of_sides saturates.sides place).mp covers
    have unknown := SensorModel.holds_unknown usable
    rw [Grid.valueAt?, if_neg outside, Option.getD_none]
    exact ⟨unknown.isNumber, fun _ => unknown⟩

theorem saturates_fused (usable : model.Usable) (saturates : Saturates start model map events)
    {frame : Grid Occupancy} {after : BeliefMap} {tally : FusionTally}
    (fused : Fused map frame after tally) :
    Saturates start model after (events ++ [.fused tally.shift frame]) := by
  refine ⟨fused.model_eq.trans saturates.model_eq, ?_, ?_⟩
  · rw [fused.lattice_eq]
    exact saturates.sides
  · intro place covers
    obtain ⟨seen, seenAt, value⟩ :=
      fused.value_eq place ((covers_of_sides saturates.sides place).mpr covers)
    have observed : (Event.fused tally.shift frame).seenAt? place = some seen := seenAt
    have ground : place + corner (events ++ [.fused tally.shift frame]) =
        place + tally.shift + corner events := by
      rw [corner_snoc]
      exact Offset.add_add_right_comm _ _ _
    obtain ⟨isNumber, holds⟩ := saturated_prior usable saturates (place + tally.shift)
    rw [saturates.model_eq] at value
    refine ⟨_, value, SensorModel.revised_not_nan usable isNumber seen, ?_⟩
    intro settled
    -- Settled before the move, or only now by what the frame saw.
    rcases settled_snoc_covered covers rfl settled with before | ⟨state, stateAt, known⟩
    · rw [ground] at before
      exact SensorModel.holds_revised usable (holds before) seen
    · rw [observed, Option.some.injEq] at stateAt
      subst stateAt
      exact SensorModel.holds_observed usable isNumber known

theorem saturates_step (usable : model.Usable) (saturates : Saturates start model map events)
    (call : Call) :
    Saturates start model (step (map, events) call).1 (step (map, events) call).2 := by
  cases call with
  | reset => exact saturates_reset usable saturates
  | update frame =>
      have mapUsable : map.model.Usable := by rwa [saturates.model_eq]
      rcases update_spec mapUsable frame with ⟨after, tally, ran, fused⟩ | ⟨fault, ran, -⟩
      · simp only [step, respond, ran]
        exact saturates_fused usable saturates fused
      · simp only [step, respond, ran]
        exact saturates_refused saturates fault

theorem saturates_run (usable : model.Usable) (saturates : Saturates start model map [])
    (calls : List Call) : Saturates start model (map.run calls).1 (map.run calls).2 := by
  induction calls using List.reverseRecOn with
  | nil => exact saturates
  | append_singleton calls call ih =>
      rw [run, List.foldl_append, List.foldl_cons, List.foldl_nil, ← run]
      exact saturates_step usable ih call

theorem saturates_of_grid (numbers : ∀ belief ∈ start.cells, belief.logOdds.isNaN = false) :
    Saturates start model ⟨model, start⟩ [] := by
  refine ⟨rfl, ⟨rfl, rfl⟩, ?_⟩
  intro place covers
  obtain ⟨belief, value⟩ := Option.isSome_iff_exists.mp (Grid.value_at_isSome covers)
  have member : belief ∈ start.cells := by
    rw [Grid.valueAt?, if_pos covers] at value
    exact Array.mem_of_getElem? value
  refine ⟨belief, value, numbers belief member, ?_⟩
  rintro (before | ⟨moment, none, -⟩)
  · apply before
    have ground : place + corner [] = place := Offset.add_zero place
    rw [ground]
    exact value
  · cases none

theorem saturated_get (usable : model.Usable) (saturates : Saturates start model map [])
    (calls : List Call) {cell : Cell} (inside : start.lattice.contains cell = true) :
    ∃ belief, (map.run calls).1.grid.get cell = .ok belief ∧ belief.logOdds.isNaN = false ∧
      (Settled start model (map.run calls).2 (cell.place + corner (map.run calls).2) →
        model.Holds belief) := by
  have covers := (Lattice.contains_iff_covers start.lattice cell).mp inside
  obtain ⟨belief, value, isNumber, holds⟩ :=
    (saturates_run usable saturates calls).value cell.place covers
  have read := Grid.get_eq_value_at (map.run calls).1.grid cell
  rw [value, Option.elim_some] at read
  exact ⟨belief, read, isNumber, holds⟩

end Saturates

/-- After any calls every belief of a map that began empty lies between the bounds. In a map
that began from an earlier survey no belief is NaN, and the belief in a place of the ground
lies between the bounds if it did so in the survey, and else from the first moment on at
which the place was seen free or occupied, left the window or was forgotten. -/
theorem run_saturates {model : SensorModel} (sound : model.validate = .ok ()) :
    (∀ lattice : Lattice, lattice.validate = .ok () →
      ∃ start, empty lattice model = .ok start ∧
        ∀ (calls : List Call) (cell : Cell), lattice.contains cell = true →
          ∃ belief, (start.run calls).1.grid.get cell = .ok belief ∧ model.Holds belief) ∧
    ∀ survey : Grid Belief, (∀ belief ∈ survey.cells, belief.logOdds.isNaN = false) →
      ∃ start, ofGrid survey model = .ok start ∧
        ∀ (calls : List Call) (cell : Cell), survey.lattice.contains cell = true →
          let events := (start.run calls).2
          ∃ belief, (start.run calls).1.grid.get cell = .ok belief ∧
            belief.logOdds.isNaN = false ∧
            (Settled survey model events (cell.place + corner events) → model.Holds belief) := by
  have usable := (SensorModel.validate_ok_iff model).mp sound
  refine ⟨?_, ?_⟩
  · intro lattice passed
    rw [Lattice.validate_ok_iff] at passed
    obtain ⟨start, made, modelEq, latticeEq, unknown⟩ := empty_ok passed usable
    have holds := SensorModel.holds_unknown usable
    have begun : Saturates start.grid model start [] := by
      refine ⟨modelEq, ⟨rfl, rfl⟩, ?_⟩
      intro place covers
      rw [latticeEq] at covers
      exact ⟨_, unknown place covers, holds.isNumber, fun _ => holds⟩
    refine ⟨start, made, ?_⟩
    intro calls cell inside
    rw [← latticeEq] at inside
    obtain ⟨belief, read, -, settled⟩ := saturated_get usable begun calls inside
    refine ⟨belief, read, settled (Or.inl ?_)⟩
    intro prior priorAt
    by_cases covers : start.grid.lattice.Covers (cell.place + corner (start.run calls).2)
    · rw [unknown _ (by rwa [← latticeEq])] at priorAt
      cases priorAt
      exact holds
    · rw [Grid.valueAt?, if_neg covers] at priorAt
      cases priorAt
  · intro survey numbers
    refine ⟨⟨model, survey⟩, by rw [ofGrid, sound]; rfl, ?_⟩
    intro calls cell inside
    exact saturated_get usable (saturates_of_grid numbers) calls inside

theorem run_saturates_overflow :
    let model : SensorModel := ⟨3e38, -3e38, -3.1e38, 3.3e38, 3.4e38, 1, -1⟩
    let lattice : Lattice := ⟨1, 1, 1, .zero⟩
    let frame : Grid Occupancy := ⟨lattice, #[.occupied], rfl⟩
    let survey : Grid Belief := ⟨lattice, #[⟨1 / 0⟩], rfl⟩
    model.validate = .ok () ∧ lattice.validate = .ok () ∧
      (model.hit + model.hit).isFinite = false ∧
      (∀ belief ∈ survey.cells, belief.logOdds.isNaN = false) ∧
      (∃ start belief, empty lattice model = .ok start ∧
        (start.run [.update frame, .update frame]).1.grid.get ⟨0, 0⟩ = .ok belief ∧
        model.Holds belief) ∧
      ∃ start belief, ofGrid survey model = .ok start ∧
        start.grid.get ⟨0, 0⟩ = .ok ⟨1 / 0⟩ ∧
        (start.run [.update frame]).1.grid.get ⟨0, 0⟩ = .ok belief ∧ model.Holds belief := by
  intro model lattice frame survey
  have sound : model.validate = .ok () := by decide +kernel
  have usable : lattice.validate = .ok () := by decide +kernel
  have numbers : ∀ belief ∈ survey.cells, belief.logOdds.isNaN = false := by decide +kernel
  obtain ⟨fromEmpty, fromSurvey⟩ := run_saturates sound
  refine ⟨sound, usable, by decide +kernel, numbers, ?_, ?_⟩
  · obtain ⟨start, made, held⟩ := fromEmpty lattice usable
    obtain ⟨belief, read, holds⟩ := held [.update frame, .update frame] ⟨0, 0⟩ (by decide)
    exact ⟨start, belief, made, read, holds⟩
  · obtain ⟨start, made, held⟩ := fromSurvey survey numbers
    obtain ⟨belief, read, -, settled⟩ := held [.update frame] ⟨0, 0⟩ (by decide)
    let infinite : BeliefMap := ⟨model, survey⟩
    have known : start = infinite := by
      have computed : ofGrid survey model = .ok infinite := by decide +kernel
      rw [made] at computed
      exact Except.ok.inj computed
    have hit : ∃ moment ∈ moments (infinite.run [.update frame]).2,
        moment.event.seenAt? (Cell.place ⟨0, 0⟩ + corner (infinite.run [.update frame]).2 -
          moment.corner) = some .occupied := by decide +kernel
    subst known
    obtain ⟨moment, member, seen⟩ := hit
    refine ⟨infinite, belief, made, by decide +kernel, read, settled (Or.inr ?_)⟩
    exact ⟨moment, member, Or.inr ⟨.occupied, seen, by decide⟩⟩

end EvidenceGrid.BeliefMap

import Mathlib
import EvidenceGrid.Proofs.BeliefMap.Update

/-!
A belief map over a whole run of frames and resets, told per place of the ground.
The places count from the first window's corner, so a place of the ground is met
by different cells as the window moves. Its history holds what frames saw there
since it last came into the window or was forgotten, and the map is the fold of
these histories. The numbers of the corner do not matter here, only the shifts.
-/

set_option autoImplicit false

namespace EvidenceGrid

namespace BeliefMap

inductive Call
  | update (frame : Grid Occupancy)
  | reset

inductive Event
  | fused (shift : Offset) (frame : Grid Occupancy)
  | refused (fault : Fault)
  | forgotten

/-- The map after a call, and what became of it. A refused frame changes nothing. -/
def respond (map : BeliefMap) : Call → BeliefMap × Event
  | .update frame =>
    match map.update frame with
    | .ok (after, tally) => (after, .fused tally.shift frame)
    | .error fault => (map, .refused fault)
  | .reset => (map.reset, .forgotten)

def step (state : BeliefMap × List Event) (call : Call) : BeliefMap × List Event :=
  let (after, event) := state.1.respond call
  (after, state.2 ++ [event])

def run (map : BeliefMap) (calls : List Call) : BeliefMap × List Event :=
  calls.foldl step (map, [])

namespace Event

def shift : Event → Offset
  | fused shift _ => shift
  | _ => .zero

def forgets : Event → Bool
  | forgotten => true
  | _ => false

def seenAt? : Event → Offset → Option Occupancy
  | fused _ frame, place => frame.valueAt? place
  | _, _ => none

end Event

/-- An event with the window's corner after it. -/
structure Moment where
  corner : Offset
  event : Event

def momentsFrom (corner : Offset) : List Event → List Moment
  | [] => []
  | event :: rest => ⟨corner + event.shift, event⟩ :: momentsFrom (corner + event.shift) rest

def moments (events : List Event) : List Moment := momentsFrom .zero events

def corner (events : List Event) : Offset :=
  events.foldl (fun corner event => corner + event.shift) .zero

/-- Whether a place of the ground is in the window and stays remembered. -/
def Moment.keeps (lattice : Lattice) (ground : Offset) (moment : Moment) : Bool :=
  decide (lattice.Covers (ground - moment.corner)) && !moment.event.forgets

/-- What was seen at a place of the ground since it was last forgotten or out of
the window. -/
def history (lattice : Lattice) (events : List Event) (ground : Offset) : List Occupancy :=
  ((moments events).rtakeWhile (Moment.keeps lattice ground)).filterMap fun moment =>
    moment.event.seenAt? (ground - moment.corner)

section History

theorem moments_from_snoc (start : Offset) (events : List Event) (event : Event) :
    momentsFrom start (events ++ [event]) = momentsFrom start events ++
      [⟨events.foldl (fun corner event => corner + event.shift) start + event.shift, event⟩] := by
  induction events generalizing start with
  | nil => rfl
  | cons first rest ih =>
      rw [List.cons_append, momentsFrom, ih, momentsFrom, List.cons_append, List.foldl_cons]

theorem corner_snoc (events : List Event) (event : Event) :
    corner (events ++ [event]) = corner events + event.shift := by
  rw [corner, List.foldl_append, List.foldl_cons, List.foldl_nil, ← corner]

theorem moments_snoc (events : List Event) (event : Event) :
    moments (events ++ [event]) = moments events ++ [⟨corner (events ++ [event]), event⟩] := by
  rw [moments, moments_from_snoc, ← corner, corner_snoc, moments]

variable {lattice : Lattice} {events : List Event} {event : Event} {ground : Offset}

theorem history_snoc (keeps : Moment.keeps lattice ground ⟨corner (events ++ [event]), event⟩) :
    history lattice (events ++ [event]) ground = history lattice events ground ++
      (event.seenAt? (ground - corner (events ++ [event]))).toList := by
  rw [history, moments_snoc, List.rtakeWhile_concat_pos _ _ _ keeps, List.filterMap_append]
  rfl

theorem history_snoc_lost
    (lost : ¬Moment.keeps lattice ground ⟨corner (events ++ [event]), event⟩) :
    history lattice (events ++ [event]) ground = [] := by
  rw [history, moments_snoc, List.rtakeWhile_concat_neg _ _ _ lost, List.filterMap_nil]

theorem history_snoc_covered {place : Offset} (covers : lattice.Covers place)
    (kept : event.forgets = false) :
    history lattice (events ++ [event]) (place + corner (events ++ [event])) =
      history lattice events (place + corner (events ++ [event])) ++
        (event.seenAt? place).toList := by
  have here : place + corner (events ++ [event]) - corner (events ++ [event]) = place :=
    Offset.add_sub_cancel_right _ _
  rw [history_snoc (by simp [Moment.keeps, here, covers, kept]), here]

theorem history_outside (outside : ¬lattice.Covers (ground - corner events)) :
    history lattice events ground = [] := by
  induction events using List.reverseRecOn with
  | nil => rfl
  | append_singleton events event _ =>
      apply history_snoc_lost
      simp [Moment.keeps, outside]

end History

/-- What a run keeps: the map's shape and model, and every cell at the fold of the
history of the ground it covers. -/
structure Tracks (lattice : Lattice) (model : SensorModel) (map : BeliefMap)
    (events : List Event) : Prop where
  model_eq : map.model = model
  sides : map.grid.lattice.width = lattice.width ∧ map.grid.lattice.height = lattice.height
  value_eq : ∀ place, lattice.Covers place → map.grid.valueAt? place =
    some ((history lattice events (place + corner events)).foldl model.revised .unknown)

section Tracks

variable {lattice : Lattice} {model : SensorModel} {map : BeliefMap} {events : List Event}

theorem covers_of_sides {left right : Lattice}
    (sides : left.width = right.width ∧ left.height = right.height) (place : Offset) :
    left.Covers place ↔ right.Covers place := by
  rw [Lattice.Covers, Lattice.Covers, sides.1, sides.2]

theorem tracked_value (tracks : Tracks lattice model map events) (place : Offset) :
    (map.grid.valueAt? place).getD .unknown =
      (history lattice events (place + corner events)).foldl model.revised .unknown := by
  by_cases covers : lattice.Covers place
  · rw [tracks.value_eq place covers, Option.getD_some]
  · have outside : ¬map.grid.lattice.Covers place :=
      mt (covers_of_sides tracks.sides place).mp covers
    rw [Grid.valueAt?, if_neg outside, Option.getD_none,
      history_outside (by rwa [Offset.add_sub_cancel_right])]
    rfl

theorem tracks_reset (tracks : Tracks lattice model map events) :
    Tracks lattice model map.reset (events ++ [.forgotten]) := by
  refine ⟨tracks.model_eq, tracks.sides, ?_⟩
  intro place covers
  rw [reset_value ((covers_of_sides tracks.sides place).mpr covers),
    history_snoc_lost (by simp [Moment.keeps, Event.forgets])]
  rfl

theorem tracks_refused (tracks : Tracks lattice model map events) (fault : Fault) :
    Tracks lattice model map (events ++ [.refused fault]) := by
  refine ⟨tracks.model_eq, tracks.sides, ?_⟩
  intro place covers
  have cornerEq : corner (events ++ [.refused fault]) = corner events :=
    (corner_snoc events (.refused fault)).trans (Offset.add_zero _)
  rw [history_snoc_covered covers rfl, tracks.value_eq place covers, cornerEq]
  simp [Event.seenAt?]

theorem tracks_fused (tracks : Tracks lattice model map events) {frame : Grid Occupancy}
    {after : BeliefMap} {tally : FusionTally} (fused : Fused map frame after tally) :
    Tracks lattice model after (events ++ [.fused tally.shift frame]) := by
  refine ⟨fused.model_eq.trans tracks.model_eq, ?_, ?_⟩
  · rw [fused.lattice_eq]
    exact tracks.sides
  · intro place covers
    obtain ⟨seen, seenAt, value⟩ :=
      fused.value_eq place ((covers_of_sides tracks.sides place).mpr covers)
    have observed : (Event.fused tally.shift frame).seenAt? place = some seen := seenAt
    -- The same ground before the move: a place that comes in was outside and has no history.
    have ground : place + corner (events ++ [.fused tally.shift frame]) =
        place + tally.shift + corner events := by
      rw [corner_snoc]
      exact Offset.add_add_right_comm _ _ _
    rw [history_snoc_covered covers rfl, observed, ground, value, tracks.model_eq,
      tracked_value tracks, List.foldl_append]
    rfl

theorem tracks_step (usable : model.Usable) (tracks : Tracks lattice model map events)
    (call : Call) :
    Tracks lattice model (step (map, events) call).1 (step (map, events) call).2 := by
  cases call with
  | reset => exact tracks_reset tracks
  | update frame =>
      have mapUsable : map.model.Usable := by rwa [tracks.model_eq]
      rcases update_spec mapUsable frame with ⟨after, tally, ran, fused⟩ | ⟨fault, ran, -⟩
      · simp only [step, respond, ran]
        exact tracks_fused tracks fused
      · simp only [step, respond, ran]
        exact tracks_refused tracks fault

theorem tracks_run (usable : model.Usable) (tracks : Tracks lattice model map [])
    (calls : List Call) : Tracks lattice model (map.run calls).1 (map.run calls).2 := by
  induction calls using List.reverseRecOn with
  | nil => exact tracks
  | append_singleton calls call ih =>
      rw [run, List.foldl_append, List.foldl_cons, List.foldl_nil, ← run]
      exact tracks_step usable ih call

theorem revise_history (usable : model.Usable) (seen : List Occupancy) (prior : Belief) :
    seen.foldlM model.revise prior = .ok (seen.foldl model.revised prior) := by
  induction seen generalizing prior with
  | nil => rfl
  | cons first rest ih =>
      rw [List.foldlM_cons, SensorModel.revise_ok usable, List.foldl_cons, ← ih]
      rfl

theorem unknown_history {seen : List Occupancy} (nothing : ∀ state ∈ seen, state = .unknown) :
    seen.foldl model.revised .unknown = .unknown := by
  induction seen with
  | nil => rfl
  | cons first rest ih =>
      rw [List.foldl_cons, nothing first List.mem_cons_self, SensorModel.revised_unknown]
      exact ih fun state member => nothing state (List.mem_cons_of_mem _ member)

end Tracks

/-- After any calls every cell holds the fold of its ground's history: what the
frames that were taken in saw there, once each and in order, since the ground last
came into the window or was forgotten. Ground of which nothing else was seen than
that it is unknown is held exactly unknown. -/
theorem run_folds_history {lattice : Lattice} {model : SensorModel}
    (usable : lattice.validate = .ok ()) (sound : model.validate = .ok ()) :
    ∃ start, empty lattice model = .ok start ∧ ∀ (calls : List Call) (cell : Cell),
      lattice.contains cell = true →
        let events := (start.run calls).2
        let seen := history lattice events (cell.place + corner events)
        ∃ belief, (start.run calls).1.grid.get cell = .ok belief ∧
          seen.foldlM model.revise .unknown = .ok belief ∧
          ((∀ state ∈ seen, state = .unknown) → belief = .unknown) := by
  rw [Lattice.validate_ok_iff] at usable
  rw [SensorModel.validate_ok_iff] at sound
  obtain ⟨start, made, modelEq, latticeEq, unknown⟩ := empty_ok usable sound
  refine ⟨start, made, ?_⟩
  intro calls cell inside
  have begun : Tracks lattice model start [] :=
    ⟨modelEq, by rw [latticeEq]; exact ⟨rfl, rfl⟩, unknown⟩
  have tracks := tracks_run sound begun calls
  have covers := (Lattice.contains_iff_covers lattice cell).mp inside
  have read := Grid.get_eq_value_at (start.run calls).1.grid cell
  rw [tracks.value_eq cell.place covers, Option.elim_some] at read
  exact ⟨_, read, revise_history sound _ _, unknown_history⟩

/-- A cell whose ground was seen occupied, and then free from a window moved by one. -/
theorem run_folds_history_moved :
    let lattice : Lattice := ⟨2, 1, 1, .zero⟩
    let first : Grid Occupancy := ⟨lattice, #[.unknown, .occupied], rfl⟩
    let second : Grid Occupancy := ⟨{ lattice with origin := ⟨1, 0⟩ }, #[.free, .unknown], rfl⟩
    lattice.validate = .ok () ∧ SensorModel.standard.validate = .ok () ∧
      ∃ start belief, empty lattice .standard = .ok start ∧
        (start.run [.update first, .update second]).1.grid.get ⟨0, 0⟩ = .ok belief ∧
        [Occupancy.occupied, .free].foldlM SensorModel.standard.revise .unknown = .ok belief ∧
        belief.logOdds = 0.45000002 := by
  intro lattice first second
  have usable : lattice.validate = .ok () := by decide +kernel
  have sound : SensorModel.standard.validate = .ok () := by decide +kernel
  obtain ⟨start, made, folds⟩ := run_folds_history usable sound
  obtain ⟨belief, read, folded, -⟩ := folds [.update first, .update second] ⟨0, 0⟩ (by decide)
  let fresh : BeliefMap := ⟨.standard, lattice, #[.unknown, .unknown], rfl⟩
  have known : start = fresh := by
    have computed : empty lattice .standard = .ok fresh := by decide +kernel
    rw [made] at computed
    exact Except.ok.inj computed
  have seen : history lattice (fresh.run [.update first, .update second]).2
      (Cell.place ⟨0, 0⟩ + corner (fresh.run [.update first, .update second]).2) =
        [.occupied, .free] := by decide +kernel
  have number : [Occupancy.occupied, .free].foldlM SensorModel.standard.revise .unknown =
      .ok ⟨0.45000002⟩ := by decide +kernel
  rw [known] at folded
  simp only [seen] at folded
  refine ⟨usable, sound, start, belief, made, read, folded, ?_⟩
  rw [number] at folded
  cases folded
  rfl

end BeliefMap

end EvidenceGrid

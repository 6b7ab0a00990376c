import EvidenceGrid.Mapper
import EvidenceGrid.Proofs.BeliefMap.Update
import EvidenceGrid.Proofs.Frame
import EvidenceGrid.Proofs.Settings

/-!
Runs of a mapper: any calls in any order, with frames that may come from other
framings. What every reached mapper keeps is a usable lattice with a finite
corner and a usable model. For such a mapper one cycle is described completely:
when it gives a publication, and what it has then done to the map.
-/

set_option autoImplicit false

namespace EvidenceGrid.Mapper

open EvidenceGrid.Binary32

inductive Call
  | process (sweep : Sweep)
  | integrate (frame : Frame)
  | reset

def call (mapper : Mapper) : Call → Mapper × Except Fault (Option Publication)
  | .process sweep =>
    let (after, result) := mapper.process sweep
    (after, result.map some)
  | .integrate frame =>
    let (after, result) := mapper.integrate frame
    (after, result.map some)
  | .reset => (mapper.reset, .ok none)

def offered? (mapper : Mapper) : Call → Option Frame
  | .process sweep => (mapper.frame sweep).toOption
  | .integrate frame => some frame
  | .reset => none

def run (mapper : Mapper) (calls : List Call) : Mapper :=
  calls.foldl (fun mapper call => (mapper.call call).1) mapper

def Reachable (mapper : Mapper) : Prop :=
  ∃ settings start calls, ofSettings settings = .ok start ∧ start.run calls = mapper

def lattice (mapper : Mapper) : Lattice := mapper.beliefs.grid.lattice

structure Sound (mapper : Mapper) : Prop where
  usable : mapper.lattice.Usable
  model : mapper.beliefs.model.Usable
  finite : mapper.lattice.origin.isFinite = true

/-- A frame as a cycle gives it out where frames stand alone. -/
def alone (frame : Frame) : Publication :=
  { snapshot := frame.snapshot
    tally := ⟨frame.obstaclePoints, frame.rawPoints, frame.rays, none⟩ }

theorem run_snoc (start : Mapper) (calls : List Call) (call : Call) :
    start.run (calls ++ [call]) = ((start.run calls).call call).1 := by
  rw [run, List.foldl_append, List.foldl_cons, List.foldl_nil, ← run]

section Integrate

variable {mapper : Mapper}

theorem integrate_single (single : mapper.settings.singleFrame = true) (frame : Frame) :
    mapper.integrate frame =
      ({ mapper with platformHeight := frame.platform.position.z }, .ok (alone frame)) := by
  rw [integrate]
  simp only [single, if_true]
  rfl

theorem integrate_refused (persistent : mapper.settings.singleFrame = false) {frame : Frame}
    {fault : Fault} (refused : mapper.beliefs.update frame.grid = .error fault) :
    mapper.integrate frame =
      ({ mapper with platformHeight := frame.platform.position.z }, .error fault) := by
  simp only [integrate, persistent, refused, Bool.false_eq_true, if_false]

theorem integrate_fused (persistent : mapper.settings.singleFrame = false) {frame : Frame}
    {beliefs : BeliefMap} {tally : FusionTally}
    (fused : mapper.beliefs.update frame.grid = .ok (beliefs, tally)) :
    ∃ publication, mapper.integrate frame =
      ({ mapper with beliefs, platformHeight := frame.platform.position.z }, .ok publication) ∧
        publication.tally.fusion = some tally := by
  simp only [integrate, persistent, fused, Bool.false_eq_true, if_false]
  exact ⟨_, rfl, rfl⟩

theorem tally_of_integrate {frame : Frame} {after : Mapper} {publication : Publication}
    (ran : mapper.integrate frame = (after, .ok publication)) :
    publication.tally.obstaclePoints = frame.obstaclePoints ∧
      publication.tally.rawPoints = frame.rawPoints ∧ publication.tally.rays = frame.rays := by
  rw [integrate] at ran
  simp only at ran
  split_ifs at ran
  · cases ran
    exact ⟨rfl, rfl, rfl⟩
  · split at ran
    · cases ran
    · cases ran
      exact ⟨rfl, rfl, rfl⟩

theorem integrate_cases (mapper : Mapper) (frame : Frame) :
    (∃ beliefs tally publication, mapper.beliefs.update frame.grid = .ok (beliefs, tally) ∧
      mapper.integrate frame =
        ({ mapper with beliefs, platformHeight := frame.platform.position.z },
          .ok publication)) ∨
    ∃ result, mapper.integrate frame =
      ({ mapper with platformHeight := frame.platform.position.z }, result) := by
  cases single : mapper.settings.singleFrame with
  | true =>
      exact Or.inr ⟨_, integrate_single single frame⟩
  | false =>
      cases updated : mapper.beliefs.update frame.grid with
      | error fault => exact Or.inr ⟨_, integrate_refused single updated⟩
      | ok result =>
          obtain ⟨publication, ran, -⟩ := integrate_fused single updated
          exact Or.inl ⟨_, _, publication, rfl, ran⟩

theorem settings_integrate (mapper : Mapper) (frame : Frame) :
    (mapper.integrate frame).1.settings = mapper.settings := by
  rcases integrate_cases mapper frame with ⟨beliefs, tally, publication, -, ran⟩ | ⟨result, ran⟩
  · rw [ran]
  · rw [ran]

theorem height_integrate (mapper : Mapper) (frame : Frame) :
    (mapper.integrate frame).1.platformHeight = frame.platform.position.z := by
  rcases integrate_cases mapper frame with ⟨beliefs, tally, publication, -, ran⟩ | ⟨result, ran⟩
  · rw [ran]
  · rw [ran]

/-- A call takes in the frame that it offers. Without one it is a reset, or it fails
and leaves the mapper as it is. -/
theorem call_cases (mapper : Mapper) (call : Call) :
    (∃ frame, mapper.offered? call = some frame ∧
      mapper.call call =
        ((mapper.integrate frame).1, (mapper.integrate frame).2.map some)) ∨
    (mapper.offered? call = none ∧ mapper.call call = (mapper.reset, .ok none)) ∨
    ∃ fault, mapper.offered? call = none ∧ mapper.call call = (mapper, .error fault) := by
  cases call with
  | integrate frame => exact Or.inl ⟨frame, rfl, rfl⟩
  | reset => exact Or.inr (Or.inl ⟨rfl, rfl⟩)
  | process sweep =>
      cases made : mapper.frame sweep with
      | ok frame =>
          have processed : mapper.process sweep = mapper.integrate frame := by rw [process, made]
          refine Or.inl ⟨frame, ?_, ?_⟩
          · rw [offered?, made]
            rfl
          · rw [Mapper.call, processed]
      | error fault =>
          have processed : mapper.process sweep = (mapper, .error fault) := by rw [process, made]
          refine Or.inr (Or.inr ⟨fault, ?_, ?_⟩)
          · rw [offered?, made]
            rfl
          · rw [Mapper.call, processed]
            rfl

theorem settings_call (mapper : Mapper) (call : Call) :
    (mapper.call call).1.settings = mapper.settings := by
  rcases call_cases mapper call with ⟨frame, -, ran⟩ | ⟨-, ran⟩ | ⟨fault, -, ran⟩
  · rw [ran]
    exact settings_integrate mapper frame
  · rw [ran]
    rfl
  · rw [ran]

end Integrate

section Sound

variable {mapper : Mapper}

theorem of_settings_spec {settings : Settings} (made : ofSettings settings = .ok mapper) :
    ∃ lattice beliefs, settings.validate = .ok () ∧ settings.lattice = .ok lattice ∧
      BeliefMap.empty lattice settings.model = .ok beliefs ∧
      mapper = { settings, beliefs, platformHeight := 0 } := by
  obtain ⟨⟨⟩, passed, rest⟩ := Fault.first_passed made
  obtain ⟨lattice, latticeMade, rest⟩ := Fault.first_passed rest
  obtain ⟨beliefs, begun, rest⟩ := Fault.first_passed rest
  cases rest
  exact ⟨lattice, beliefs, passed, latticeMade, begun, rfl⟩

theorem sound_of_settings {settings : Settings} (made : ofSettings settings = .ok mapper) :
    mapper.Sound := by
  obtain ⟨lattice, beliefs, passed, latticeMade, begun, rfl⟩ := of_settings_spec made
  obtain ⟨usable, -, atZero⟩ := Settings.lattice_spec latticeMade
  have model := Settings.model_of_validate passed
  obtain ⟨fresh, started, modelEq, latticeEq, -⟩ := BeliefMap.empty_ok usable model
  rw [begun] at started
  cases started
  refine ⟨?_, ?_, ?_⟩
  · change beliefs.grid.lattice.Usable
    rwa [latticeEq]
  · change beliefs.model.Usable
    rwa [modelEq]
  · change beliefs.grid.lattice.origin.isFinite = true
    rw [latticeEq, atZero]
    rfl

theorem sound_integrate (sound : mapper.Sound) (frame : Frame) :
    (mapper.integrate frame).1.Sound := by
  rcases integrate_cases mapper frame with
    ⟨beliefs, tally, publication, updated, ran⟩ | ⟨result, ran⟩
  · have fused := BeliefMap.fused_of_update sound.model updated
    have latticeEq := fused.lattice_eq
    rw [ran]
    refine ⟨?_, ?_, ?_⟩
    · change beliefs.grid.lattice.Usable
      rw [latticeEq]
      exact Lattice.usable_moved sound.usable _
    · change beliefs.model.Usable
      rw [fused.model_eq]
      exact sound.model
    · change beliefs.grid.lattice.origin.isFinite = true
      rw [latticeEq]
      simp only
      split_ifs
      · exact sound.finite
      · exact fused.finite
  · rw [ran]
    exact ⟨sound.usable, sound.model, sound.finite⟩

theorem sound_call (sound : mapper.Sound) (call : Call) : (mapper.call call).1.Sound := by
  rcases call_cases mapper call with ⟨frame, -, ran⟩ | ⟨-, ran⟩ | ⟨fault, -, ran⟩
  · rw [ran]
    exact sound_integrate sound frame
  · rw [ran]
    exact ⟨sound.usable, sound.model, sound.finite⟩
  · rw [ran]
    exact sound

theorem sound_of_reachable (reachable : mapper.Reachable) : mapper.Sound := by
  obtain ⟨settings, start, calls, made, rfl⟩ := reachable
  have begun := sound_of_settings made
  induction calls using List.reverseRecOn with
  | nil => exact begun
  | append_singleton calls call ih =>
      rw [run_snoc]
      exact sound_call ih call

end Sound

section Process

variable {mapper : Mapper} {sweep : Sweep} {placement : Placement}

def wantedCorner (mapper : Mapper) (place : Point) : Point :=
  place - mapper.lattice.extent * (0.5 : Float32)

def frameCorner (mapper : Mapper) (place : Point) : Point :=
  mapper.lattice.snap (mapper.wantedCorner place)

theorem frame_spec (sound : mapper.Sound) (persistent : mapper.settings.singleFrame = false)
    (placed : sweep.placement = some placement) (finite : placement.isFinite = true) :
    ∃ frame, mapper.frame sweep = .ok frame ∧
      frame.grid.lattice =
        { mapper.lattice with origin := mapper.frameCorner placement.center.ground } ∧
      frame.platform = placement.platform := by
  have made := mapper.framing.frame_ok sound.usable placed finite
  have corner : mapper.framing.corner placement.center.ground =
      mapper.frameCorner placement.center.ground := by
    rw [Framing.corner]
    simp only [framing, persistent, Bool.false_eq_true, if_false]
    rfl
  rw [corner] at made
  exact made

/-- A cycle with finite poses takes its frame in, unless bringing the frame's corner
to the lattice once more overflows. -/
theorem process_spec (sound : mapper.Sound) (persistent : mapper.settings.singleFrame = false)
    (placed : sweep.placement = some placement) (finite : placement.isFinite = true) :
    ∃ frame, mapper.frame sweep = .ok frame ∧
      frame.grid.lattice =
        { mapper.lattice with origin := mapper.frameCorner placement.center.ground } ∧
      ((∃ beliefs tally publication,
          mapper.process sweep =
            ({ mapper with beliefs, platformHeight := frame.platform.position.z },
              .ok publication) ∧
          publication.tally.fusion = some tally ∧
          BeliefMap.Fused mapper.beliefs frame.grid beliefs tally) ∨
        ∃ fault,
          mapper.process sweep =
            ({ mapper with platformHeight := frame.platform.position.z }, .error fault) ∧
          (mapper.lattice.snap (mapper.frameCorner placement.center.ground)).isFinite =
            false) := by
  obtain ⟨frame, made, latticeEq, -⟩ := frame_spec sound persistent placed finite
  refine ⟨frame, made, latticeEq, ?_⟩
  have processed : mapper.process sweep = mapper.integrate frame := by
    rw [process, made]
  have alike : frame.grid.lattice.sameShape mapper.beliefs.grid.lattice = true := by
    rw [latticeEq]
    exact BeliefMap.same_shape_moved sound.usable _
  rcases BeliefMap.update_spec sound.model frame.grid with
    ⟨beliefs, tally, ran, fused⟩ | ⟨fault, ran, refusal⟩
  · obtain ⟨publication, integrated, counted⟩ := integrate_fused persistent ran
    exact Or.inl ⟨beliefs, tally, publication, processed.trans integrated, counted, fused⟩
  · refine Or.inr ⟨fault, processed.trans (integrate_refused persistent ran), ?_⟩
    rcases refusal with ⟨unlike, -⟩ | ⟨-, infinite, -⟩
    · rw [alike] at unlike
      cases unlike
    · rwa [latticeEq] at infinite

theorem placed_of_process {after : Mapper} {publication : Publication}
    (ran : mapper.process sweep = (after, .ok publication)) :
    ∃ placement, sweep.placement = some placement ∧ placement.isFinite = true := by
  rw [process] at ran
  split at ran
  · cases ran
  · next frame made => exact Framing.placed_of_frame made

theorem fused_of_process (sound : mapper.Sound) (persistent : mapper.settings.singleFrame = false)
    (placed : sweep.placement = some placement) (finite : placement.isFinite = true)
    {after : Mapper} {publication : Publication}
    (ran : mapper.process sweep = (after, .ok publication)) :
    ∃ frame tally, mapper.frame sweep = .ok frame ∧
      frame.grid.lattice =
        { mapper.lattice with origin := mapper.frameCorner placement.center.ground } ∧
      publication.tally.fusion = some tally ∧
      BeliefMap.Fused mapper.beliefs frame.grid after.beliefs tally := by
  obtain ⟨frame, made, latticeEq, ⟨beliefs, tally, other, processed, counted, fused⟩ |
    ⟨fault, refused, -⟩⟩ := process_spec sound persistent placed finite
  · rw [processed] at ran
    cases ran
    exact ⟨frame, tally, made, latticeEq, counted, fused⟩
  · rw [refused] at ran
    cases ran

end Process

end EvidenceGrid.Mapper

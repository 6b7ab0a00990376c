import EvidenceGrid.Proofs.Mapper.Safety

/-!
A mapper whose frames stand alone remembers nothing. Its map is the one it was made with, since
no frame reaches the map and forgetting an empty map changes nothing. What a cycle publishes is
the frame itself, and a frame is made from the settings and the place of the map only. The one
thing that a history does leave, the height of the last frame, is published with the map and
not with a frame. What a mapper keeps whose frames do not stand alone is no subject here.
-/

set_option autoImplicit false

namespace EvidenceGrid

namespace BeliefMap

theorem reset_of_empty {lattice : Lattice} {model : SensorModel} {map : BeliefMap}
    (begun : empty lattice model = .ok map) : map.reset = map := by
  obtain ⟨grid, filled, rest⟩ := Fault.first_passed begun
  obtain ⟨⟨⟩, -, made⟩ := Fault.first_passed rest
  rw [Grid.filled_eq] at filled
  obtain ⟨⟨⟩, -, blank⟩ := Fault.first_passed filled
  cases blank
  cases made
  simp only [reset, Grid.fill, Grid.withCells, Array.size_replicate]

end BeliefMap

namespace Mapper

inductive Request
  | call (call : Call)
  | build (sweep : Sweep)

def serve (mapper : Mapper) : Request → Mapper
  | .call call => (mapper.call call).1
  | .build _ => mapper

def serveAll (mapper : Mapper) (history : List Request) : Mapper :=
  history.foldl serve mapper

section Alone

variable {mapper : Mapper}

/-- The mapper as it was but for the height, also when the frame was made elsewhere. -/
def WithHeight (mapper after : Mapper) : Prop :=
  ∃ height, after = { mapper with platformHeight := height }

theorem call_alone (mapper : Mapper) (single : mapper.settings.singleFrame = true)
    (empty : mapper.beliefs.reset = mapper.beliefs) (call : Call) :
    mapper.WithHeight (mapper.call call).1 := by
  rcases call_cases mapper call with ⟨frame, -, ran⟩ | ⟨-, ran⟩ | ⟨fault, -, ran⟩
  · rw [ran, integrate_single single]
    exact ⟨frame.platform.position.z, rfl⟩
  · rw [ran]
    refine ⟨mapper.platformHeight, ?_⟩
    rw [reset, empty]
  · rw [ran]
    exact ⟨mapper.platformHeight, rfl⟩

theorem process_alone (single : mapper.settings.singleFrame = true) (sweep : Sweep) :
    (mapper.process sweep).2 = (mapper.framing.frame sweep).map alone := by
  rw [process, frame]
  cases made : mapper.framing.frame sweep with
  | error fault => rfl
  | ok frame =>
      simp only [integrate_single single]
      rfl

theorem serve_all_alone (mapper : Mapper) (single : mapper.settings.singleFrame = true)
    (empty : mapper.beliefs.reset = mapper.beliefs) (history : List Request) :
    mapper.WithHeight (mapper.serveAll history) := by
  induction history using List.reverseRecOn with
  | nil => exact ⟨mapper.platformHeight, rfl⟩
  | append_singleton history request ih =>
      obtain ⟨height, reached⟩ := ih
      rw [serveAll, List.foldl_append, List.foldl_cons, List.foldl_nil, ← serveAll, reached]
      cases request with
      | build sweep => exact ⟨height, rfl⟩
      | call call =>
          have kept := call_alone { mapper with platformHeight := height } single empty call
          obtain ⟨next, served⟩ := kept
          exact ⟨next, served⟩

end Alone

/-- After two histories the map is the new one both times, and the next sweep is answered alike. -/
theorem single_frames_remember_nothing {settings : Settings}
    (accepted : settings.validate = .ok ()) (single : settings.singleFrame = true) :
    ∃ start, ofSettings settings = .ok start ∧ ∀ history other : List Request,
      (start.serveAll history).beliefs = start.beliefs ∧
        (start.serveAll other).beliefs = start.beliefs ∧
        ∀ sweep, ((start.serveAll history).process sweep).2 =
          ((start.serveAll other).process sweep).2 := by
  obtain ⟨_, start, -, made, -⟩ := of_settings_ok accepted
  obtain ⟨lattice, beliefs, -, -, begun, rfl⟩ := of_settings_spec made
  have empty := BeliefMap.reset_of_empty begun
  refine ⟨_, made, ?_⟩
  intro history other
  obtain ⟨height, reached⟩ := serve_all_alone ⟨settings, beliefs, 0⟩ single empty history
  obtain ⟨otherHeight, otherReached⟩ := serve_all_alone ⟨settings, beliefs, 0⟩ single empty other
  rw [reached, otherReached]
  refine ⟨rfl, rfl, ?_⟩
  intro sweep
  rw [process_alone single, process_alone single]
  rfl

theorem single_frames_remember_nothing_four_cells :
    let settings : Settings :=
      { Settings.standard with mapLength := 2, mapResolution := 1, singleFrame := true }
    let near : Sweep := ⟨[⟨0.5, 0.5, 0⟩], [⟨1.5, 0.5, 0⟩], some (.together ⟨⟨1, 1, 0⟩, 0⟩)⟩
    let far : Sweep := ⟨[⟨9, 9, 3⟩], [], some (.together ⟨⟨9, 8, 3⟩, 0⟩)⟩
    let foreign : Frame := ⟨⟨⟨1, 1, 1, ⟨-1, -1⟩⟩, #[.free], rfl⟩, ⟨⟨0, 0, 1⟩, 0⟩, 0, 0, {}⟩
    let history : List Request :=
      [.call (.process far), .build near, .call .reset, .call (.process ⟨[], [], none⟩),
        .call (.integrate foreign)]
    settings.validate = .ok () ∧ ∃ start, ofSettings settings = .ok start ∧
      (start.serveAll history).platformHeight = 1 ∧
      (start.serveAll history).beliefs = start.beliefs ∧
      ((start.serveAll history).process near).2 = ((start.serveAll []).process near).2 ∧
      (start.process near).2.map (·.snapshot.values) = .ok #[100, 0, -1, 0] := by
  intro settings near far foreign history
  have accepted : settings.validate = .ok () := by decide +kernel
  obtain ⟨start, made, forgets⟩ := single_frames_remember_nothing accepted rfl
  obtain ⟨kept, -, alike⟩ := forgets history []
  have started : ofSettings settings = .ok
      ⟨settings, ⟨.standard, ⟨⟨2, 2, 1, .zero⟩, Array.replicate 4 .unknown, rfl⟩⟩, 0⟩ := by
    decide +kernel
  rw [made] at started
  cases started
  exact ⟨accepted, _, made, by decide +kernel, kept, alike near, by decide +kernel⟩

end Mapper

end EvidenceGrid

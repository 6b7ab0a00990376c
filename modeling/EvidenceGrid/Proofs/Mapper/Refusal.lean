import EvidenceGrid.Proofs.Mapper.InPlace

/-!
What a refused call leaves behind. The map and the settings stay as they were;
the height does not, because it is taken from a frame before the frame is known
to fit. The published height is therefore that of the last frame that was
offered, and the last integrated one's only while refused frames change nothing.
-/

set_option autoImplicit false

namespace EvidenceGrid.Mapper

def integrated? (mapper : Mapper) (call : Call) : Option Frame :=
  match (mapper.call call).2 with
  | .ok _ => mapper.offered? call
  | .error _ => none

/-- The height of the last frame that a run picks, or zero when it picks none. -/
def lastHeight (pick : Mapper → Call → Option Frame) (start : Mapper) (calls : List Call) :
    Float32 :=
  (calls.foldl (fun (state : Mapper × Float32) call =>
    ((state.1.call call).1,
      ((pick state.1 call).map fun frame => frame.platform.position.z).getD state.2)) (start, 0)).2

section Height

variable {mapper start : Mapper}

theorem last_height_snoc (pick : Mapper → Call → Option Frame) (start : Mapper)
    (calls : List Call) (call : Call) :
    lastHeight pick start (calls ++ [call]) =
      ((pick (start.run calls) call).map fun frame => frame.platform.position.z).getD
        (lastHeight pick start calls) := by
  have reached (state : Mapper × Float32) :
      (calls.foldl (fun (state : Mapper × Float32) call =>
        ((state.1.call call).1,
          ((pick state.1 call).map fun frame => frame.platform.position.z).getD state.2))
        state).1 = state.1.run calls := by
    induction calls generalizing state with
    | nil => rfl
    | cons first rest ih =>
        rw [List.foldl_cons, ih]
        rfl
  rw [lastHeight, List.foldl_append, List.foldl_cons, List.foldl_nil, reached]
  rfl

theorem height_call (mapper : Mapper) (call : Call) :
    (mapper.call call).1.platformHeight =
      ((mapper.offered? call).map fun frame => frame.platform.position.z).getD
        mapper.platformHeight := by
  rcases call_cases mapper call with ⟨frame, offer, ran⟩ | ⟨offer, ran⟩ | ⟨fault, offer, ran⟩
  · rw [ran, offer]
    exact height_integrate mapper frame
  · rw [ran, offer]
    rfl
  · rw [ran, offer]
    rfl

theorem height_run (atZero : start.platformHeight = 0) (calls : List Call) :
    (start.run calls).platformHeight = lastHeight offered? start calls := by
  induction calls using List.reverseRecOn with
  | nil => exact atZero
  | append_singleton calls call ih => rw [run_snoc, height_call, ih, last_height_snoc]

/-- A refused call changes nothing but the height, which is that of the frame it offered. -/
theorem call_refused {call : Call} {after : Mapper} {fault : Fault}
    (refused : mapper.call call = (after, .error fault)) :
    after = { mapper with
      platformHeight := ((mapper.offered? call).map fun frame => frame.platform.position.z).getD
        mapper.platformHeight } := by
  rcases call_cases mapper call with ⟨frame, offer, ran⟩ | ⟨offer, ran⟩ | ⟨cause, offer, ran⟩
  · rw [ran] at refused
    rw [offer]
    rcases integrate_cases mapper frame with
      ⟨beliefs, tally, publication, -, integrated⟩ | ⟨result, integrated⟩
    · rw [integrated] at refused
      cases refused
    · rw [integrated] at refused
      exact (congrArg Prod.fst refused).symm
  · rw [ran] at refused
    cases refused
  · rw [ran] at refused
    cases refused
    rw [offer]
    rfl

theorem height_run_integrated (atZero : start.platformHeight = 0) (calls : List Call)
    (quiet : ∀ earlier call later, calls = earlier ++ call :: later → ∀ fault,
      ((start.run earlier).call call).2 = .error fault →
        ((start.run earlier).call call).1 = start.run earlier) :
    (start.run calls).platformHeight = lastHeight integrated? start calls := by
  induction calls using List.reverseRecOn with
  | nil => exact atZero
  | append_singleton calls call ih =>
      have before := ih fun earlier one later split =>
        quiet earlier one (later ++ [call]) (by rw [split, List.append_assoc, List.cons_append])
      rw [run_snoc, last_height_snoc, integrated?]
      cases answer : ((start.run calls).call call).2 with
      | error fault =>
          rw [quiet calls call [] rfl fault answer, before]
          rfl
      | ok result => rw [height_call, before]

end Height

/-- A refused call leaves the settings and the map as they were. It leaves the whole
mapper so exactly when the frame it offered, if any, has the height that is
published already. That height is the one of the last frame offered in the run, and
of the last one integrated if the refused calls of the run have left the mapper as
it was. The steps of the call end with the same fault and leave the same mapper. -/
theorem refused_call_keeps_map {settings : Settings} {start : Mapper}
    (made : ofSettings settings = .ok start) {calls : List Call} {call : Call} {after : Mapper}
    {fault : Fault} (refused : (start.run calls).call call = (after, .error fault)) :
    after.settings = (start.run calls).settings ∧ after.beliefs = (start.run calls).beliefs ∧
      (after = start.run calls ↔ ∀ frame, (start.run calls).offered? call = some frame →
        frame.platform.position.z = (start.run calls).snapshot.platformHeight) ∧
      (start.run calls).snapshot.platformHeight = lastHeight offered? start calls ∧
      ((∀ earlier one later, calls = earlier ++ one :: later → ∀ cause,
          ((start.run earlier).call one).2 = .error cause →
            ((start.run earlier).call one).1 = start.run earlier) →
        (start.run calls).snapshot.platformHeight = lastHeight integrated? start calls) ∧
      (Work.of call).run (start.run calls).workspace =
        .error (.refused fault) after.workspace := by
  have atZero : start.platformHeight = 0 := by
    obtain ⟨_, _, -, -, -, rfl⟩ := of_settings_spec made
    rfl
  have changed := call_refused refused
  have sound := sound_of_reachable ⟨settings, start, calls, made, rfl⟩
  have inPlace := call_run sound.model call
  rw [refused] at inPlace
  refine ⟨by rw [changed], by rw [changed], ?_, height_run atZero calls,
    height_run_integrated atZero calls, inPlace⟩
  cases offer : (start.run calls).offered? call with
  | none =>
      rw [offer] at changed
      constructor
      · intro _ frame absent
        cases absent
      · intro _
        exact changed
  | some frame =>
      rw [offer, Option.map_some, Option.getD_some] at changed
      constructor
      · rintro same _ ⟨⟩
        rw [same] at changed
        exact (congrArg platformHeight changed).symm
      · intro agrees
        rw [changed, agrees frame rfl]
        rfl

def fourCells : Mapper :=
  { settings := { Settings.standard with mapLength := 2, mapResolution := 1 }
    beliefs := ⟨.standard, ⟨⟨2, 2, 1, .zero⟩, Array.replicate 4 .unknown, rfl⟩⟩
    platformHeight := 0 }

def highFrame : Frame := ⟨⟨⟨1, 1, 1, ⟨-1, -1⟩⟩, #[.unknown], rfl⟩, ⟨⟨0, 0, 1⟩, 0⟩, 0, 0, {}⟩

/-- The height of a frame that does not fit stays in the mapper that refuses it. -/
theorem refused_frame_leaves_height :
    ofSettings fourCells.settings = .ok fourCells ∧
      Framing.frame ⟨fourCells.settings, .square 1 1⟩ ⟨[], [], some (.together ⟨⟨0, 0, 1⟩, 0⟩)⟩ =
        .ok highFrame ∧
      ∃ after fault, fourCells.call (.integrate highFrame) = (after, .error fault) ∧
        fourCells.snapshot.platformHeight = 0 ∧ after.snapshot.platformHeight = 1 := by
  refine ⟨by decide +kernel, by decide +kernel, { fourCells with platformHeight := 1 },
    .shape (.frame 1 1 1 2 2 1), ?_, rfl, rfl⟩
  decide +kernel

theorem refused_frame_keeps_cells :
    ofSettings fourCells.settings = .ok fourCells ∧
      ∃ after fault, fourCells.call (.integrate highFrame) = (after, .error fault) ∧
        after.settings = fourCells.settings ∧ after.beliefs = fourCells.beliefs ∧
        (Work.of (.integrate highFrame)).run fourCells.workspace =
          .error (.refused fault) after.workspace := by
  have made : ofSettings fourCells.settings = .ok fourCells := by decide +kernel
  have refused : (fourCells.run []).call (.integrate highFrame) =
      ({ fourCells with platformHeight := 1 }, .error (.shape (.frame 1 1 1 2 2 1))) := by
    decide +kernel
  obtain ⟨kept, same, -, -, -, inPlace⟩ := refused_call_keeps_map made refused
  exact ⟨made, _, _, refused, kept, same, inPlace⟩

end EvidenceGrid.Mapper

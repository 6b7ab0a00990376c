import EvidenceGrid.Cycle
import EvidenceGrid.Proofs.Mapper.Run

/-!
What overlapping cycles come to. The order that counts is the one in which the cycles
finish: a schedule agrees with whole cycles in that order, step by step, exactly as long
as each frame does to the map what a frame made at once would do. Frames differ by
where their window was placed and in nothing else, so one that lies where it would lie
now is taken in as if it was made now.
-/

set_option autoImplicit false

namespace EvidenceGrid

namespace Mapper

def processAll (mapper : Mapper) : List Sweep → Mapper × List (Except Fault Publication)
  | [] => (mapper, [])
  | sweep :: rest =>
    let (after, result) := mapper.process sweep
    let (last, results) := after.processAll rest
    (last, result :: results)

theorem process_all_snoc (mapper : Mapper) (sweeps : List Sweep) (sweep : Sweep) :
    mapper.processAll (sweeps ++ [sweep]) =
      (((mapper.processAll sweeps).1.process sweep).1,
        (mapper.processAll sweeps).2 ++ [((mapper.processAll sweeps).1.process sweep).2]) := by
  induction sweeps generalizing mapper with
  | nil => rfl
  | cons first rest ih => simp only [List.cons_append, processAll, ih]

/-- A frame is taken in as one that is made now would be. -/
def TakesAsNow (mapper : Mapper) (sweep : Sweep) (frame : Frame) : Prop :=
  ∃ now, mapper.frame sweep = .ok now ∧ mapper.integrate frame = mapper.integrate now

end Mapper

namespace Shared

section Step

variable {shared : Shared} {turn other : Nat} {cycle : Cycle}

theorem step_of_cycle (here : shared.cycles[turn]? = some cycle) :
    shared.step turn = ⟨(cycle.step shared.mapper).1,
      shared.cycles.setIfInBounds turn (cycle.step shared.mapper).2⟩ := by
  obtain ⟨bound, rfl⟩ := Array.getElem?_eq_some_iff.mp here
  rw [step, dif_pos bound, Array.setIfInBounds, dif_pos bound]

theorem step_of_none (none : shared.cycles[turn]? = none) : shared.step turn = shared := by
  rw [step, dif_neg (not_lt.mpr (Array.getElem?_eq_none_iff.mp none))]

theorem cycle_step_self (here : shared.cycles[turn]? = some cycle) :
    (shared.step turn).cycles[turn]? = some (cycle.step shared.mapper).2 := by
  rw [step_of_cycle here, Array.getElem?_setIfInBounds_self_of_lt]
  exact (Array.getElem?_eq_some_iff.mp here).1

theorem cycle_step_other (apart : turn ≠ other) :
    (shared.step turn).cycles[other]? = shared.cycles[other]? := by
  cases here : shared.cycles[turn]? with
  | none => rw [step_of_none here]
  | some cycle => rw [step_of_cycle here, Array.getElem?_setIfInBounds_ne apart]

theorem result_step_other (apart : turn ≠ other) :
    (shared.step turn).result? other = shared.result? other := by
  rw [result?, result?, cycle_step_other apart]

theorem result_step_finished {result : Except Fault Publication}
    (done : shared.result? turn = some result) : (shared.step turn).result? turn = some result := by
  rw [result?] at done
  split at done
  · next own here =>
      cases done
      rw [result?, cycle_step_self here]
      rfl
  · cases done

end Step

section Finished

def finishes (shared : Shared) (turn : Nat) : Bool :=
  (shared.result? turn).isNone && ((shared.step turn).result? turn).isSome

/-- The cycles that a schedule brings to an end, in that order. -/
def finished (shared : Shared) : List Nat → List Nat
  | [] => []
  | turn :: rest =>
    (if shared.finishes turn then [turn] else []) ++ (shared.step turn).finished rest

variable {mapper : Mapper} {sweeps : List Sweep}

theorem run_snoc (shared : Shared) (schedule : List Nat) (turn : Nat) :
    shared.run (schedule ++ [turn]) = (shared.run schedule).step turn := by
  rw [run, List.foldl_append]
  rfl

theorem finished_snoc (shared : Shared) (schedule : List Nat) (turn : Nat) :
    shared.finished (schedule ++ [turn]) =
      shared.finished schedule ++ if (shared.run schedule).finishes turn then [turn] else [] := by
  induction schedule generalizing shared with
  | nil => exact List.append_nil _
  | cons first rest ih =>
      rw [List.cons_append, finished, ih, finished, List.append_assoc]
      rfl

theorem result_start (turn : Nat) : (start mapper sweeps).result? turn = none := by
  rw [result?, start, List.getElem?_toArray, List.getElem?_map]
  cases sweeps[turn]? <;> rfl

theorem result_step_iff (shared : Shared) (turn other : Nat) :
    ((shared.step turn).result? other).isSome = true ↔
      (shared.result? other).isSome = true ∨ other = turn ∧ shared.finishes turn = true := by
  by_cases same : other = turn
  · subst same
    cases done : shared.result? other with
    | some result => simp [result_step_finished done]
    | none => simp [finishes, done]
  · rw [result_step_other (Ne.symm same)]
    simp [same]

theorem mem_finished_iff (schedule : List Nat) (turn : Nat) :
    turn ∈ (start mapper sweeps).finished schedule ↔
      (((start mapper sweeps).run schedule).result? turn).isSome = true := by
  induction schedule using List.reverseRecOn with
  | nil =>
      rw [run, List.foldl_nil, result_start]
      simp [finished]
  | append_singleton schedule last ih =>
      rw [finished_snoc, run_snoc, result_step_iff, List.mem_append, ih]
      split_ifs with ends <;> simp [ends]

theorem nodup_finished (schedule : List Nat) :
    ((start mapper sweeps).finished schedule).Nodup := by
  induction schedule using List.reverseRecOn with
  | nil => exact List.nodup_nil
  | append_singleton schedule last ih =>
      rw [finished_snoc]
      split_ifs with ends
      · rw [finishes, Bool.and_eq_true, Option.isNone_iff_eq_none] at ends
        have fresh : last ∉ (start mapper sweeps).finished schedule := by
          rw [mem_finished_iff, ends.1]
          exact Bool.false_ne_true
        rw [← List.concat_eq_append]
        exact ih.concat fresh
      · rwa [List.append_nil]

end Finished

end Shared

/-- A framing for a mapper's own settings and cells, with a corner of some kind. -/
structure Framing.For (framing : Framing) (corners : Point → Prop) (mapper : Mapper) : Prop where
  settings_eq : framing.settings = mapper.settings
  corner : corners framing.anchor.origin
  anchor_eq : framing.anchor = { mapper.lattice with origin := framing.anchor.origin }

theorem Framing.For.usable {framing : Framing} {corners : Point → Prop} {mapper : Mapper}
    (fits : framing.For corners mapper) (sound : mapper.Sound) : framing.anchor.Usable := by
  rw [fits.anchor_eq]
  exact Lattice.usable_moved sound.usable _

/-- The frame of a persistent mapper lies where the framing's corner leads. -/
theorem Framing.For.frame_lattice {framing : Framing} {corners : Point → Prop} {mapper : Mapper}
    (fits : framing.For corners mapper) (sound : mapper.Sound)
    (persistent : mapper.settings.singleFrame = false) {sweep : Sweep} {frame : Frame}
    {placement : Placement} (placed : sweep.placement = some placement)
    (made : framing.frame sweep = .ok frame) :
    placement.isFinite = true ∧
      frame.grid.lattice = { mapper.lattice with
        origin := Lattice.snap { mapper.lattice with origin := framing.anchor.origin }
          (mapper.wantedCorner placement.center.ground) } := by
  obtain ⟨own, ownPlaced, finite⟩ := Framing.placed_of_frame made
  rw [placed] at ownPlaced
  cases ownPlaced
  obtain ⟨_, same, latticeEq, -⟩ := framing.frame_ok (fits.usable sound) placed finite
  rw [made] at same
  cases same
  have single : framing.settings.singleFrame = false := by rw [fits.settings_eq, persistent]
  refine ⟨finite, ?_⟩
  rw [latticeEq]
  simp only [Framing.corner, single, Bool.false_eq_true, if_false]
  rw [fits.anchor_eq]
  rfl

theorem Framing.For.wider {framing : Framing} {corners next : Point → Prop} {mapper : Mapper}
    (fits : framing.For corners mapper) (wider : ∀ corner, corners corner → next corner) :
    framing.For next mapper :=
  ⟨fits.settings_eq, wider _ fits.corner, fits.anchor_eq⟩

def Cycle.WorksOn (corners : Point → Prop) (mapper : Mapper) (sweep : Sweep) : Cycle → Prop
  | waiting own => own = sweep
  | prepared own framing => own = sweep ∧ framing.For corners mapper
  | framed frame =>
      ∃ framing : Framing, framing.For corners mapper ∧ framing.frame sweep = .ok frame
  | finished _ => True

theorem Cycle.WorksOn.wider {corners next : Point → Prop} {mapper : Mapper} {sweep : Sweep}
    {cycle : Cycle} (works : cycle.WorksOn corners mapper sweep)
    (wider : ∀ corner, corners corner → next corner) : cycle.WorksOn next mapper sweep := by
  cases cycle with
  | waiting own => exact works
  | prepared own framing => exact ⟨works.1, works.2.wider wider⟩
  | framed frame =>
      obtain ⟨framing, fits, made⟩ := works
      exact ⟨framing, fits.wider wider, made⟩
  | finished result => trivial

/-- Frames of the sweeps never bring the window to a corner of another kind. -/
def Mapper.Keeps (mapper : Mapper) (corners : Point → Prop) (sweeps : List Sweep) : Prop :=
  ∀ (now : Mapper) (framing : Framing) (sweep : Sweep) (frame : Frame), now.Sound →
    now.framing.For corners mapper → framing.For corners mapper → sweep ∈ sweeps →
      framing.frame sweep = .ok frame → corners (now.integrate frame).1.lattice.origin

/-- What a run of cycles keeps: a sound mapper of the same settings and cells, and every
cycle at work on its own sweep. -/
structure Shared.Tracks (corners : Point → Prop) (mapper : Mapper) (sweeps : List Sweep)
    (shared : Shared) : Prop where
  sound : shared.mapper.Sound
  map : shared.mapper.framing.For corners mapper
  cycle : ∀ (turn : Nat) (cycle : Cycle), shared.cycles[turn]? = some cycle →
    ∃ sweep, sweeps[turn]? = some sweep ∧ cycle.WorksOn corners mapper sweep

theorem Mapper.lattice_integrate {mapper : Mapper} (sound : mapper.Sound) (frame : Frame) :
    (mapper.integrate frame).1.lattice =
      { mapper.lattice with origin := (mapper.integrate frame).1.lattice.origin } := by
  rcases integrate_cases mapper frame with
    ⟨beliefs, tally, publication, updated, ran⟩ | ⟨result, ran⟩
  · have latticeEq := (BeliefMap.fused_of_update sound.model updated).lattice_eq
    rw [ran]
    change beliefs.grid.lattice = { mapper.lattice with origin := beliefs.grid.lattice.origin }
    rw [latticeEq]
    rfl
  · rw [ran]
    rfl

theorem Framing.For.integrate {now mapper : Mapper} {corners next : Point → Prop}
    (fits : now.framing.For corners mapper) (sound : now.Sound) {frame : Frame}
    (corner : next (now.integrate frame).1.lattice.origin) :
    (now.integrate frame).1.framing.For next mapper := by
  refine ⟨(Mapper.settings_integrate now frame).trans fits.settings_eq, corner, ?_⟩
  refine (Mapper.lattice_integrate sound frame).trans ?_
  have cells : now.lattice = _ := fits.anchor_eq
  rw [cells]
  rfl

namespace Shared

section Tracks

variable {corners next : Point → Prop} {mapper : Mapper} {sweeps : List Sweep} {shared : Shared}

theorem tracks_start (sound : mapper.Sound) (corner : corners mapper.lattice.origin) :
    Tracks corners mapper sweeps (start mapper sweeps) := by
  refine ⟨sound, ⟨rfl, corner, rfl⟩, ?_⟩
  intro turn cycle here
  rw [start, List.getElem?_toArray, List.getElem?_map, Option.map_eq_some_iff] at here
  obtain ⟨sweep, given, rfl⟩ := here
  exact ⟨sweep, given, rfl⟩

theorem cycle_step_tracked (tracks : Tracks corners mapper sweeps shared)
    (wider : ∀ corner, corners corner → next corner) {sweep : Sweep} {cycle : Cycle}
    (works : cycle.WorksOn corners mapper sweep)
    (moved : ∀ frame, cycle = .framed frame →
      next (shared.mapper.integrate frame).1.lattice.origin) :
    (cycle.step shared.mapper).1.Sound ∧
      (cycle.step shared.mapper).1.framing.For next mapper ∧
      (cycle.step shared.mapper).2.WorksOn next mapper sweep := by
  obtain ⟨sound, map, -⟩ := tracks
  have wide := map.wider wider
  cases cycle with
  | waiting own => exact ⟨sound, wide, works, wide⟩
  | prepared own framing =>
      obtain ⟨rfl, fits⟩ := works
      rw [Cycle.step]
      cases made : framing.frame own with
      | error fault => exact ⟨sound, wide, trivial⟩
      | ok frame => exact ⟨sound, wide, framing, fits.wider wider, made⟩
  | framed frame =>
      exact ⟨Mapper.sound_integrate sound frame, map.integrate sound (moved frame rfl), trivial⟩
  | finished result => exact ⟨sound, wide, trivial⟩

/-- A step may widen the kind of corners, and only taking in a frame needs that. -/
theorem tracks_step (tracks : Tracks corners mapper sweeps shared)
    (wider : ∀ corner, corners corner → next corner) {turn : Nat}
    (moved : ∀ frame, shared.cycles[turn]? = some (.framed frame) →
      next (shared.mapper.integrate frame).1.lattice.origin) :
    Tracks next mapper sweeps (shared.step turn) := by
  have kept (other : Nat) (cycle : Cycle) (there : shared.cycles[other]? = some cycle) :
      ∃ sweep, sweeps[other]? = some sweep ∧ cycle.WorksOn next mapper sweep := by
    obtain ⟨sweep, given, works⟩ := tracks.cycle other cycle there
    exact ⟨sweep, given, works.wider wider⟩
  cases here : shared.cycles[turn]? with
  | none =>
      rw [step_of_none here]
      exact ⟨tracks.sound, tracks.map.wider wider, kept⟩
  | some cycle =>
      obtain ⟨sweep, given, works⟩ := tracks.cycle turn cycle here
      obtain ⟨sound, map, after⟩ := cycle_step_tracked tracks wider works fun frame framed =>
        moved frame (here.trans (congrArg some framed))
      have stepped : (shared.step turn).mapper = (cycle.step shared.mapper).1 := by
        rw [step_of_cycle here]
      refine ⟨stepped ▸ sound, stepped ▸ map, ?_⟩
      intro other cycle' now
      by_cases same : turn = other
      · subst same
        rw [cycle_step_self here, Option.some.injEq] at now
        exact ⟨sweep, given, now ▸ after⟩
      · rw [cycle_step_other same] at now
        exact kept other cycle' now

theorem tracks_run (sound : mapper.Sound) (corner : corners mapper.lattice.origin)
    (keeps : mapper.Keeps corners sweeps) (schedule : List Nat) :
    Tracks corners mapper sweeps ((start mapper sweeps).run schedule) := by
  induction schedule using List.reverseRecOn with
  | nil => exact tracks_start sound corner
  | append_singleton schedule turn ih =>
      rw [run_snoc]
      apply tracks_step ih fun _ kept => kept
      intro frame framed
      obtain ⟨sweep, given, framing, fits, made⟩ := ih.cycle turn _ framed
      exact keeps _ framing sweep frame ih.sound ih.map fits (List.mem_of_getElem? given) made

theorem tracks_anywhere (sound : mapper.Sound) (sweeps : List Sweep) (schedule : List Nat) :
    Tracks (fun _ => True) mapper sweeps ((start mapper sweeps).run schedule) :=
  tracks_run sound trivial (fun _ _ _ _ _ _ _ _ _ => trivial) schedule

/-- What one step does to the mapper: nothing, with no cycle ended or with one that its sweep
refuses at any time; or it takes a frame in, which always ends a cycle. -/
inductive Turn (corners : Point → Prop) (mapper : Mapper) (sweeps : List Sweep) (shared : Shared)
    (turn : Nat) : Prop
  | idle (unframed : ∀ frame, shared.cycles[turn]? ≠ some (.framed frame))
      (ends : shared.finishes turn = false) (still : (shared.step turn).mapper = shared.mapper)
  | refused (sweep : Sweep) (framing : Framing) (fault : Fault)
      (unframed : ∀ frame, shared.cycles[turn]? ≠ some (.framed frame))
      (given : sweeps[turn]? = some sweep) (fits : framing.For corners mapper)
      (failed : framing.frame sweep = .error fault) (ends : shared.finishes turn = true)
      (still : (shared.step turn).mapper = shared.mapper)
      (result : (shared.step turn).result? turn = some (.error fault))
  | taken (sweep : Sweep) (framing : Framing) (frame : Frame)
      (framed : shared.cycles[turn]? = some (.framed frame))
      (given : sweeps[turn]? = some sweep) (fits : framing.For corners mapper)
      (made : framing.frame sweep = .ok frame) (ends : shared.finishes turn = true)
      (moved : (shared.step turn).mapper = (shared.mapper.integrate frame).1)
      (result : (shared.step turn).result? turn = some (shared.mapper.integrate frame).2)

theorem Tracks.turn (tracks : Tracks corners mapper sweeps shared) (turn : Nat) :
    Turn corners mapper sweeps shared turn := by
  cases here : shared.cycles[turn]? with
  | none =>
      apply Turn.idle
      · simp [here]
      · simp [finishes, result?, step_of_none here, here]
      · rw [step_of_none here]
  | some cycle =>
      obtain ⟨sweep, given, works⟩ := tracks.cycle turn cycle here
      have stepped : (shared.step turn).mapper = (cycle.step shared.mapper).1 := by
        rw [step_of_cycle here]
      have after := cycle_step_self here
      cases cycle with
      | waiting own =>
          exact .idle (by simp [here]) (by simp [finishes, result?, here, after, Cycle.step]) stepped
      | finished result =>
          exact .idle (by simp [here]) (by simp [finishes, result?, here]) stepped
      | prepared own framing =>
          obtain ⟨rfl, fits⟩ := works
          cases made : framing.frame own with
          | ok frame =>
              rw [Cycle.step, made] at after stepped
              exact .idle (by simp [here]) (by simp [finishes, result?, here, after]) stepped
          | error fault =>
              rw [Cycle.step, made] at after stepped
              exact .refused own framing fault (by simp [here]) given fits made
                (by simp [finishes, result?, here, after]) stepped (by simp [result?, after])
      | framed frame =>
          obtain ⟨framing, fits, made⟩ := works
          exact .taken sweep framing frame here given fits made
            (by simp [finishes, result?, here, after, Cycle.step]) stepped
            (by simp [result?, after, Cycle.step])

theorem finished_length_le (sound : mapper.Sound) (schedule : List Nat) :
    ((start mapper sweeps).finished schedule).length ≤ sweeps.length := by
  have member : (start mapper sweeps).finished schedule ⊆ List.range sweeps.length := by
    intro turn finished
    rw [mem_finished_iff, Option.isSome_iff_exists] at finished
    obtain ⟨result, done⟩ := finished
    rw [result?] at done
    split at done
    · next own here =>
        obtain ⟨sweep, given, -⟩ := (tracks_anywhere sound sweeps schedule).cycle turn _ here
        exact List.mem_range.mpr (List.getElem?_eq_some_iff.mp given).1
    · cases done
  have fewer := ((nodup_finished schedule).subperm member).length_le
  rwa [List.length_range] at fewer

theorem Tracks.framed (tracks : Tracks corners mapper sweeps shared) {turn : Nat} {sweep : Sweep}
    {frame : Frame} (given : sweeps[turn]? = some sweep)
    (framed : shared.cycles[turn]? = some (.framed frame)) :
    ∃ framing : Framing, framing.For corners mapper ∧ framing.frame sweep = .ok frame := by
  obtain ⟨own, ownGiven, made⟩ := tracks.cycle turn _ framed
  rw [given] at ownGiven
  cases ownGiven
  exact made

end Tracks

end Shared

namespace Framing

variable {first second : Framing} {sweep : Sweep}

theorem frame_eq_of_lattice (settings : first.settings = second.settings)
    (same : ∀ placement, sweep.placement = some placement →
      ({ first.anchor with origin := first.corner placement.center.ground } : Lattice) =
        { second.anchor with origin := second.corner placement.center.ground }) :
    first.frame sweep = second.frame sweep := by
  have crops : first.cropped = second.cropped := by
    funext height cloud
    rw [cropped, cropped, settings]
  have matching : first.matched = second.matched := by
    funext obstacle raw
    rw [matched, matched, settings]
  rw [frame, frame]
  cases placed : sweep.placement with
  | none => rfl
  | some placement =>
      have lattice := same placement placed
      simp only at lattice ⊢
      rw [lattice, crops, matching]

theorem error_of_error {fault : Fault} (firstUsable : first.anchor.Usable)
    (failed : first.frame sweep = .error fault) : second.frame sweep = .error fault := by
  cases placed : sweep.placement with
  | none =>
      rw [frame, placed] at failed ⊢
      exact failed
  | some placement =>
      cases finite : placement.isFinite with
      | true =>
          obtain ⟨frame, made, -⟩ := first.frame_ok firstUsable placed finite
          rw [made] at failed
          cases failed
      | false =>
          rw [frame, placed] at failed ⊢
          simp only [finite, Bool.not_false, if_true] at failed ⊢
          exact failed

theorem ok_of_ok {frame : Frame} (secondUsable : second.anchor.Usable)
    (made : first.frame sweep = .ok frame) : ∃ now, second.frame sweep = .ok now := by
  obtain ⟨placement, placed, finite⟩ := placed_of_frame made
  obtain ⟨now, madeNow, -⟩ := second.frame_ok secondUsable placed finite
  exact ⟨now, madeNow⟩

end Framing

namespace Shared

/-- A schedule has come to what whole cycles come to, in the order in which its cycles
have finished: the same mapper, and the same results. -/
structure SerialAfter (mapper : Mapper) (sweeps : List Sweep) (schedule : List Nat) : Prop where
  mapper_eq : ((start mapper sweeps).run schedule).mapper =
    (mapper.processAll (((start mapper sweeps).finished schedule).filterMap (sweeps[·]?))).1
  results_eq : ((start mapper sweeps).finished schedule).map
      ((start mapper sweeps).run schedule).result? =
    (mapper.processAll
      (((start mapper sweeps).finished schedule).filterMap (sweeps[·]?))).2.map some

theorem SerialAfter.view_eq {α : Type} {mapper : Mapper} {sweeps : List Sweep}
    {schedule turns : List Nat} (serial : SerialAfter mapper sweeps schedule) (view : Mapper → α)
    (order : (start mapper sweeps).finished schedule = turns) :
    view ((start mapper sweeps).run schedule).mapper =
      view (mapper.processAll (turns.filterMap (sweeps[·]?))).1 := by
  rw [serial.mapper_eq, order]

/-- If the next step of a cycle takes a frame in, it does what it would do with a frame
that is made now. -/
def Timely (shared : Shared) (sweeps : List Sweep) (turn : Nat) : Prop :=
  ∀ sweep frame, sweeps[turn]? = some sweep → shared.cycles[turn]? = some (.framed frame) →
    shared.mapper.TakesAsNow sweep frame

section Serial

variable {mapper : Mapper} {sweeps : List Sweep} {schedule : List Nat}

theorem serial_nil (mapper : Mapper) (sweeps : List Sweep) : SerialAfter mapper sweeps [] :=
  ⟨rfl, rfl⟩

theorem results_kept (schedule : List Nat) (turn : Nat) :
    ((start mapper sweeps).finished schedule).map
        (((start mapper sweeps).run schedule).step turn).result? =
      ((start mapper sweeps).finished schedule).map
        ((start mapper sweeps).run schedule).result? := by
  apply List.map_congr_left
  intro other member
  rw [mem_finished_iff, Option.isSome_iff_exists] at member
  obtain ⟨result, done⟩ := member
  by_cases same : turn = other
  · subst same
    rw [done, result_step_finished done]
  · exact result_step_other same

theorem serial_idle (serial : SerialAfter mapper sweeps schedule) (turn : Nat)
    (idle : ((start mapper sweeps).run schedule).finishes turn = false)
    (still : (((start mapper sweeps).run schedule).step turn).mapper =
      ((start mapper sweeps).run schedule).mapper) :
    SerialAfter mapper sweeps (schedule ++ [turn]) := by
  obtain ⟨mapperEq, resultsEq⟩ := serial
  constructor
  · rw [run_snoc, finished_snoc, idle, still, mapperEq]
    simp
  · rw [run_snoc, finished_snoc, idle]
    simp only [Bool.false_eq_true, if_false, List.append_nil]
    rw [results_kept, resultsEq]

theorem results_snoc {turn : Nat} {result : Except Fault Publication}
    (ends : ((start mapper sweeps).run schedule).finishes turn = true)
    (now : (((start mapper sweeps).run schedule).step turn).result? turn = some result) :
    ((start mapper sweeps).finished (schedule ++ [turn])).map
        (((start mapper sweeps).run schedule).step turn).result? =
      ((start mapper sweeps).finished schedule).map
        ((start mapper sweeps).run schedule).result? ++ [some result] := by
  rw [finished_snoc, if_pos ends, List.map_append, results_kept, List.map_singleton, now]

/-- A step that ends a cycle adds its whole cycle to those compared with. -/
theorem serial_snoc (mapper : Mapper) {sweep : Sweep} {turn : Nat}
    (given : sweeps[turn]? = some sweep)
    (ends : ((start mapper sweeps).run schedule).finishes turn = true) :
    mapper.processAll
        (((start mapper sweeps).finished (schedule ++ [turn])).filterMap (sweeps[·]?)) =
      let before := mapper.processAll
        (((start mapper sweeps).finished schedule).filterMap (sweeps[·]?))
      ((before.1.process sweep).1, before.2 ++ [(before.1.process sweep).2]) := by
  have order : ((start mapper sweeps).finished (schedule ++ [turn])).filterMap (sweeps[·]?) =
      ((start mapper sweeps).finished schedule).filterMap (sweeps[·]?) ++ [sweep] := by
    rw [finished_snoc, if_pos ends, List.filterMap_append]
    simp [given]
  rw [order]
  exact Mapper.process_all_snoc mapper _ sweep

theorem serial_ending_iff (serial : SerialAfter mapper sweeps schedule) (turn : Nat)
    (sweep : Sweep) (result : Except Fault Publication) (given : sweeps[turn]? = some sweep)
    (ends : ((start mapper sweeps).run schedule).finishes turn = true)
    (now : (((start mapper sweeps).run schedule).step turn).result? turn = some result) :
    SerialAfter mapper sweeps (schedule ++ [turn]) ↔
      ((((start mapper sweeps).run schedule).step turn).mapper, result) =
        ((start mapper sweeps).run schedule).mapper.process sweep := by
  obtain ⟨mapperEq, resultsEq⟩ := serial
  have whole := serial_snoc mapper given ends
  have results := results_snoc ends now
  rw [resultsEq] at results
  have whole := serial_snoc mapper given ends
  have results : ((start mapper sweeps).finished (schedule ++ [turn])).map
      (((start mapper sweeps).run schedule).step turn).result? =
      (mapper.processAll (((start mapper sweeps).finished schedule).filterMap
        (sweeps[·]?))).2.map some ++ [some result] := by
    rw [finished_snoc, if_pos ends, List.map_append, results_kept, resultsEq, List.map_singleton,
      now]
  simp only [← mapperEq] at whole
  constructor
  · rintro ⟨nextMapper, nextResults⟩
    rw [run_snoc, whole] at nextMapper nextResults
    rw [results, List.map_append, List.append_cancel_left_eq] at nextResults
    have same : result = _ := Option.some.inj (List.singleton_inj.mp nextResults)
    exact Prod.ext nextMapper same
  · intro same
    constructor
    · rw [run_snoc, whole, ← same]
    · rw [run_snoc, whole, results, List.map_append, ← same]
      rfl

theorem timely_of_unframed {shared : Shared} {turn : Nat}
    (unframed : ∀ frame, shared.cycles[turn]? ≠ some (.framed frame)) :
    shared.Timely sweeps turn :=
  fun _ frame _ framed => absurd framed (unframed frame)

/-- A schedule that agrees with whole cycles goes on to do so exactly if its next step
is timely. -/
theorem serial_step_iff (sound : mapper.Sound) (serial : SerialAfter mapper sweeps schedule)
    (turn : Nat) : SerialAfter mapper sweeps (schedule ++ [turn]) ↔
      ((start mapper sweeps).run schedule).Timely sweeps turn := by
  have tracks := tracks_anywhere sound sweeps schedule
  cases tracks.turn turn with
  | idle unframed ends still =>
      exact iff_of_true (serial_idle serial turn ends still) (timely_of_unframed unframed)
  | refused sweep framing fault unframed given fits failed ends still result =>
      rw [serial_ending_iff serial turn sweep (.error fault) given ends result, still]
      have refused : ((start mapper sweeps).run schedule).mapper.frame sweep = .error fault :=
        Framing.error_of_error (fits.usable sound) failed
      exact iff_of_true (by rw [Mapper.process, refused]) (timely_of_unframed unframed)
  | taken sweep framing frame framed given fits made ends moved result =>
      rw [serial_ending_iff serial turn sweep _ given ends result, moved]
      set shared := (start mapper sweeps).run schedule
      obtain ⟨now, madeNow⟩ : ∃ now, shared.mapper.frame sweep = .ok now :=
        Framing.ok_of_ok tracks.sound.usable made
      have processed : shared.mapper.process sweep = shared.mapper.integrate now := by
        rw [Mapper.process, madeNow]
      rw [processed]
      constructor
      · intro same own other ownGiven otherFramed
        rw [given] at ownGiven
        cases ownGiven
        rw [framed] at otherFramed
        cases otherFramed
        exact ⟨now, madeNow, same⟩
      · intro timely
        obtain ⟨other, otherMade, same⟩ := timely sweep frame given framed
        rw [madeNow] at otherMade
        cases otherMade
        exact same

theorem serial_iff_timely (sound : mapper.Sound) (sweeps : List Sweep) (schedule : List Nat) :
    (∀ first, first <+: schedule → SerialAfter mapper sweeps first) ↔
      ∀ first turn, first ++ [turn] <+: schedule →
        ((start mapper sweeps).run first).Timely sweeps turn := by
  constructor
  · intro serial first turn ahead
    have before := serial first ((List.prefix_append first [turn]).trans ahead)
    exact (serial_step_iff sound before turn).mp (serial _ ahead)
  · intro timely first
    induction first using List.reverseRecOn with
    | nil => exact fun _ => serial_nil mapper sweeps
    | append_singleton first turn ih =>
        intro ahead
        have before := ih ((List.prefix_append first [turn]).trans ahead)
        exact (serial_step_iff sound before turn).mpr (timely first turn ahead)

theorem frame_eq_of_corner {corners : Point → Prop} {shared : Shared}
    (sound : mapper.Sound) (tracks : Tracks corners mapper sweeps shared) {framing : Framing}
    (fits : framing.For corners mapper) {sweep : Sweep} {frame now : Frame}
    (made : framing.frame sweep = .ok frame) (madeNow : shared.mapper.frame sweep = .ok now)
    (same : now.grid.lattice.origin = frame.grid.lattice.origin) : frame = now := by
  obtain ⟨placement, placed, finite⟩ := Framing.placed_of_frame made
  obtain ⟨_, first, lattice, -⟩ := framing.frame_ok (fits.usable sound) placed finite
  obtain ⟨_, second, latticeNow, -⟩ :=
    shared.mapper.framing.frame_ok (tracks.map.usable sound) placed finite
  rw [made] at first
  cases first
  rw [← Mapper.frame, madeNow] at second
  cases second
  rw [lattice, latticeNow] at same
  have equal : framing.frame sweep = shared.mapper.framing.frame sweep := by
    apply Framing.frame_eq_of_lattice (fits.settings_eq.trans tracks.map.settings_eq.symm)
    intro other otherPlaced
    rw [placed] at otherPlaced
    cases otherPlaced
    rw [fits.anchor_eq, tracks.map.anchor_eq] at same ⊢
    simp only at same ⊢
    rw [same]
  rw [made, ← Mapper.frame, madeNow] at equal
  exact Except.ok.inj equal

end Serial

end Shared

end EvidenceGrid

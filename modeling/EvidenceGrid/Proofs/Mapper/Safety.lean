import EvidenceGrid.Proofs.Belief.Cost
import EvidenceGrid.Proofs.Cloud.Voxel
import EvidenceGrid.Proofs.Grid.Words
import EvidenceGrid.Proofs.Mapper.Run
import EvidenceGrid.Proofs.Ray.Inside

/-!
Settings that passed their checks cannot make a mapper fail. The operations of a cycle that are
not defined for all operands are holding a number between bounds, reading and writing runs of
cells, stepping along a ray and the sums of signed words; in every reached state and for every
sweep they get operands that they are defined for. The one exception are the neighbours of a
cube of space at an end of the words, which no word names. What is left to fail is the place of
the platform.
-/

set_option autoImplicit false

namespace EvidenceGrid

open Binary32

/-! ## Rays -/

namespace Lattice

/-- A ray between two places of a lattice computes words only and stays on the lattice. -/
def RaysFit (lattice : Lattice) : Prop :=
  ∀ sensor echo start goal, lattice.cellOf sensor = .ok start → lattice.cellOf echo = .ok goal →
    (∀ asked, ((Tracer.between start goal).take asked).2.Fits) ∧
      ∀ place ∈ Segment.cells start.toOffset goal.toOffset, lattice.contains place.toCell = true

variable {lattice : Lattice}

theorem rays_fit (usable : lattice.Usable) : lattice.RaysFit := by
  intro sensor echo start goal sensorAt echoAt
  have startInside := (cell_of_ok sensorAt).2
  have goalInside := (cell_of_ok echoAt).2
  refine ⟨walk_fits usable startInside goalInside, fun place member => ?_⟩
  exact (cell_of_given usable startInside goalInside (Segment.gives_iff_mem_cells.mpr member)).1

end Lattice

/-! ## Cycles -/

namespace Settings

theorem validate_of_text {settings : Settings} {read : String → Option Settings} {text : String}
    (loaded : ofTextBy read text = .ok settings) : settings.validate = .ok () := by
  rw [ofTextBy] at loaded
  split at loaded
  · cases loaded
  · obtain ⟨⟨⟩, passed, rest⟩ := Fault.first_passed loaded
    cases rest
    exact passed

theorem lattice_of_validate {settings : Settings} (accepted : settings.validate = .ok ()) :
    ∃ lattice, settings.lattice = .ok lattice := by
  obtain ⟨⟨⟩, passed, -⟩ := Fault.first_passed accepted
  obtain ⟨lattice, made, -⟩ := Fault.first_passed passed
  exact ⟨lattice, made⟩

end Settings

namespace Mapper

/-- What the operations of one cycle that are not defined for all operands ask for. -/
structure Safe (mapper : Mapper) (sweep : Sweep) : Prop where
  beliefBounds : mapper.beliefs.model.low ≤ mapper.beliefs.model.high
  shiftBounds : -mapper.lattice.width.toFloat32 ≤ mapper.lattice.width.toFloat32 ∧
    -mapper.lattice.height.toFloat32 ≤ mapper.lattice.height.toFloat32
  byteBounds : (0 : Float32) ≤ 254
  byteRoom : ∀ (exp : Float32 → Float32) (belief : Belief), Confidence.free.toNat +
    (clamp 0 254 (nearest (belief.probabilityBy exp * 254))).toUInt8.toNat < 2 ^ 8
  cubes : ∀ point ∈ sweep.obstacle, ¬(Voxel.of mapper.settings.matchTolerance point).AtEnd →
    (Voxel.of mapper.settings.matchTolerance point).Fits
  rays : ∀ frame, mapper.frame sweep = .ok frame → frame.grid.lattice.RaysFit
  roll : ∀ frame, mapper.frame sweep = .ok frame →
    Grid.RollFits mapper.lattice (mapper.lattice.shiftTo frame.grid.lattice.origin)

section Cycle

variable {mapper : Mapper} {sweep : Sweep}

theorem lattice_of_frame (sound : mapper.Sound) {frame : Frame}
    (made : mapper.frame sweep = .ok frame) :
    ∃ origin, frame.grid.lattice = { mapper.lattice with origin } := by
  obtain ⟨placement, placed, finite⟩ := Framing.placed_of_frame made
  obtain ⟨same, framed, latticeEq, -⟩ := mapper.framing.frame_ok sound.usable placed finite
  rw [show mapper.framing.frame sweep = .ok frame from made] at framed
  cases framed
  exact ⟨_, latticeEq⟩

theorem safe_of_sound (sound : mapper.Sound) (sweep : Sweep) : mapper.Safe sweep := by
  obtain ⟨columns, rows⟩ := Lattice.sides_bounded sound.usable
  refine ⟨SensorModel.bounds_in_order sound.model, ⟨sides_in_order columns, sides_in_order rows⟩,
    Belief.scale_in_order, ?_, ?_, ?_, ?_⟩
  · intro exp belief
    have room := Belief.scaled_byte_le (nearest (belief.probabilityBy exp * 254))
    have free : Confidence.free.toNat = 1 := rfl
    omega
  · intro point _ inner
    exact (Voxel.fits_iff _).mpr inner
  · intro frame made
    obtain ⟨origin, latticeEq⟩ := lattice_of_frame sound made
    rw [latticeEq]
    exact Lattice.rays_fit (Lattice.usable_moved sound.usable origin)
  · intro frame _
    exact Grid.roll_fits sound.usable _

theorem integrate_result (sound : mapper.Sound) {frame : Frame}
    (alike : frame.grid.lattice.sameShape mapper.lattice = true) :
    (∃ publication, (mapper.integrate frame).2 = .ok publication) ∨
      ∃ cause, (mapper.integrate frame).2 = .error (.geometry cause) := by
  cases single : mapper.settings.singleFrame with
  | true => exact Or.inl ⟨alone frame, congrArg Prod.snd (integrate_single single frame)⟩
  | false =>
      rcases BeliefMap.update_spec sound.model frame.grid with
        ⟨beliefs, tally, ran, -⟩ | ⟨fault, ran, refusal⟩
      · obtain ⟨publication, integrated, -⟩ := integrate_fused single ran
        exact Or.inl ⟨publication, congrArg Prod.snd integrated⟩
      · rcases refusal with ⟨unlike, -⟩ | ⟨-, -, rfl⟩
        · exact absurd (alike.symm.trans unlike) (by decide)
        · exact Or.inr ⟨_, congrArg Prod.snd (integrate_refused single ran)⟩

theorem process_result (sound : mapper.Sound) (sweep : Sweep) :
    (∃ publication, (mapper.process sweep).2 = .ok publication) ∨
      ∃ cause, (mapper.process sweep).2 = .error (.geometry cause) := by
  cases made : mapper.frame sweep with
  | ok frame =>
      obtain ⟨origin, latticeEq⟩ := lattice_of_frame sound made
      rw [process, made]
      apply integrate_result sound
      rw [latticeEq]
      exact BeliefMap.same_shape_moved sound.usable origin
  | error fault =>
      obtain ⟨cause, rfl⟩ := Framing.geometry_of_frame sound.usable made
      rw [process, made]
      exact Or.inr ⟨cause, rfl⟩

theorem process_unplaced (sound : mapper.Sound)
    (unplaced : ∀ placement, sweep.placement = some placement → placement.isFinite = false) :
    ∃ cause, (mapper.process sweep).2 = .error (.geometry cause) := by
  rcases process_result sound sweep with ⟨publication, ran⟩ | refused
  · obtain ⟨placement, placed, finite⟩ := placed_of_process (Prod.ext rfl ran)
    rw [unplaced placement placed] at finite
    cases finite
  · exact refused

theorem of_settings_ok {settings : Settings} (accepted : settings.validate = .ok ()) :
    ∃ lattice start, settings.lattice = .ok lattice ∧ ofSettings settings = .ok start ∧
      start.lattice = lattice := by
  obtain ⟨lattice, made⟩ := Settings.lattice_of_validate accepted
  obtain ⟨usable, -, -⟩ := Settings.lattice_spec made
  obtain ⟨beliefs, begun, -, latticeEq, -⟩ :=
    BeliefMap.empty_ok usable (Settings.model_of_validate accepted)
  have ran : ofSettings settings = (BeliefMap.empty lattice settings.model >>= fun beliefs =>
      .ok { settings, beliefs, platformHeight := 0 }) := by
    rw [ofSettings, accepted, made]
    rfl
  refine ⟨lattice, ⟨settings, beliefs, 0⟩, made, ?_, latticeEq⟩
  rw [ran, begun]
  rfl

end Cycle

/-- A mapper is made from all settings that pass their checks, also from all that were read out
of a text, whatever reads it, and it has the lattice that they describe. After any calls, any
sweep makes a cycle whose operations are all defined, and which gives a publication or fails for
the place of the platform. It fails so whenever the poses are absent or not finite. -/
theorem accepted_settings_run_safely (read : String → Option Settings) {settings : Settings}
    (accepted : settings.validate = .ok () ∨
      ∃ text, Settings.ofTextBy read text = .ok settings) :
    ∃ lattice start, settings.lattice = .ok lattice ∧ ofSettings settings = .ok start ∧
      start.lattice = lattice ∧ ∀ calls sweep,
        (start.run calls).Safe sweep ∧
        ((∃ publication, ((start.run calls).process sweep).2 = .ok publication) ∨
          ∃ cause, ((start.run calls).process sweep).2 = .error (.geometry cause)) ∧
        ((∀ placement, sweep.placement = some placement → placement.isFinite = false) →
          ∃ cause, ((start.run calls).process sweep).2 = .error (.geometry cause)) := by
  have passed : settings.validate = .ok () := by
    rcases accepted with passed | ⟨text, loaded⟩
    · exact passed
    · exact Settings.validate_of_text loaded
  obtain ⟨lattice, start, latticeMade, made, latticeEq⟩ := of_settings_ok passed
  refine ⟨lattice, start, latticeMade, made, latticeEq, ?_⟩
  intro calls sweep
  have sound := sound_of_reachable ⟨settings, start, calls, made, rfl⟩
  exact ⟨safe_of_sound sound sweep, process_result sound sweep, process_unplaced sound⟩

def nowhere : Sweep := ⟨[⟨0 / 0, 1 / 0, 0⟩], [⟨-1 / 0, 0, 0 / 0⟩], none⟩

/-- A map of eight cells that has taken in one sweep and refused another, and then rolls by a
column. -/
theorem accepted_settings_run_safely_rolling :
    let settings : Settings :=
      { Settings.standard with
        mapLength := 4, mapResolution := 1, mapHeight := some 2
        matchObstacles := true, matchTolerance := 0.125 }
    let text := "map_length: 4\nmap_resolution: 1\nmap_height: 2\n" ++
      "filter_obstacle_pointcloud_by_raw_pointcloud: true\ncommon_point_tolerance: 0.125\n"
    let read (given : String) : Option Settings := if given = text then some settings else none
    let first : Sweep := ⟨[⟨3.5, 0.5, 0⟩, ⟨0 / 0, 1 / 0, 0⟩], [⟨3.5, 0.5, 0⟩, ⟨1.5, 0.5, 9⟩],
      some (.together (.onGround 2 1))⟩
    let second : Sweep := ⟨[⟨4.5, 1.5, 0⟩, ⟨2.5, 1.5, 0⟩], [⟨4.5, 1.5, 0⟩, ⟨4.5, 0.5, 1⟩],
      some (.together (.onGround 3 1))⟩
    Settings.ofTextBy read text = .ok settings ∧ ∃ start frame publication,
      ofSettings settings = .ok start ∧
      let used := start.run [.process first, .process nowhere]
      used.Safe second ∧ used.frame second = .ok frame ∧ frame.rays.cast = 3 ∧
      frame.grid.lattice.RaysFit ∧
      used.lattice.shiftTo frame.grid.lattice.origin = ⟨1, 0⟩ ∧
      Grid.RollFits used.lattice ⟨1, 0⟩ ∧
      (used.process second).2 = .ok publication ∧
      publication.snapshot.lattice.origin = ⟨1, 0⟩ ∧
      publication.tally.fusion = some ⟨⟨1, 0⟩, 1, 2⟩ ∧
      ∃ cause, (used.process nowhere).2 = .error (.geometry cause) := by
  intro settings text read first second
  have loaded : Settings.ofTextBy read text = .ok settings := by
    have found : read text = some settings := if_pos rfl
    rw [Settings.ofTextBy, found]
    decide +kernel
  let start : Mapper :=
    ⟨settings, ⟨.standard, ⟨4, 2, 1, .zero⟩, Array.replicate 8 .unknown, rfl⟩, 0⟩
  have begun : ofSettings settings = .ok start := by decide +kernel
  let taken : Frame := ⟨⟨⟨4, 2, 1, .zero⟩,
    #[.unknown, .unknown, .unknown, .occupied, .unknown, .unknown, .free, .unknown], rfl⟩,
    .onGround 2 1, 1, 1, { cast := 2, freed := 2, occupied := 1 }⟩
  have takenMade : start.frame first = .ok taken := by
    simp only [frame, Framing.frame, Framing.matched, Cloud.matching_eq_filter]
    decide +kernel
  let frame : Frame := ⟨⟨⟨4, 2, 1, ⟨1, 0⟩⟩,
    #[.unknown, .unknown, .unknown, .free, .unknown, .unknown, .free, .occupied], rfl⟩,
    .onGround 3 1, 1, 2, { cast := 3, freed := 3, occupied := 1 }⟩
  have ran : start.run [.process first, .process nowhere] = (start.integrate taken).1 := by
    have processed : start.process first = start.integrate taken := by
      rw [process, takenMade]
    change (Mapper.process (start.process first).1 nowhere).1 = _
    rw [processed]
    rfl
  have frameMade : (start.integrate taken).1.frame second = .ok frame := by
    simp only [Mapper.frame, Framing.frame, Framing.matched, Cloud.matching_eq_filter]
    decide +kernel
  have integrated : ((start.integrate taken).1.integrate frame).2.map (fun publication =>
      (publication.snapshot.lattice.origin, publication.tally.fusion)) =
        .ok (⟨1, 0⟩, some ⟨⟨1, 0⟩, 1, 2⟩) := by decide +kernel
  have shift : (start.integrate taken).1.lattice.shiftTo frame.grid.lattice.origin = ⟨1, 0⟩ := by
    decide +kernel
  obtain ⟨lattice, same, -, made, -, runs⟩ :=
    accepted_settings_run_safely read (.inr ⟨text, loaded⟩)
  rw [begun] at made
  cases made
  obtain ⟨safe, answered, -⟩ := runs [.process first, .process nowhere] second
  obtain ⟨-, -, unplaced⟩ := runs [.process first, .process nowhere] nowhere
  rw [ran] at safe answered unplaced
  have processed : (start.integrate taken).1.process second =
      (start.integrate taken).1.integrate frame := by
    rw [process, frameMade]
  rw [processed] at answered
  have roll := safe.roll frame frameMade
  rw [shift] at roll
  obtain ⟨publication, published⟩ | ⟨cause, failed⟩ := answered
  · rw [published] at integrated
    obtain ⟨corner, counted⟩ := Prod.ext_iff.mp (Except.ok.inj integrated)
    refine ⟨loaded, start, frame, publication, begun, ?_⟩
    simp only [ran]
    exact ⟨safe, frameMade, rfl, safe.rays frame frameMade, shift, roll,
      by rw [processed, published], corner, counted,
      unplaced fun placement placed => by cases placed⟩
  · rw [failed] at integrated
    cases integrated

end Mapper

end EvidenceGrid

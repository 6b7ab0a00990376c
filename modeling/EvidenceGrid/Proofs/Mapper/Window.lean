import EvidenceGrid.Proofs.Lattice.Even
import EvidenceGrid.Proofs.Mapper.Evidence
import EvidenceGrid.Proofs.Mapper.Published

/-!
Whether the window around the platform holds the platform. A sensor outside the window costs
the frame all of its rays. The window lies on the map's lattice, which takes it off its center
by half a cell at most, so the platform stays in it as long as the window has more than one
cell and the roundings are small beside half a cell. In a window of one cell a platform on a
line between cells is lost on one side of the map's corner and kept on the other.
-/

set_option autoImplicit false

namespace EvidenceGrid

open EvidenceGrid.Binary32

namespace Mapper

section Rays

variable {mapper : Mapper} {sweep : Sweep} {frame : Frame} {placement : Placement}

def used (mapper : Mapper) (height : Float32) (sweep : Sweep) : List Point3 :=
  mapper.framing.cropped height sweep.raw ++ mapper.framing.obstacles height sweep

theorem rays_of_frame (made : mapper.framing.Made sweep placement frame) :
    frame.rays.cast = (mapper.used placement.platform.position.z sweep).countP
        (fun point => frame.grid.lattice.traces placement.sensor.ground ⟨point.ground, false⟩) ∧
      frame.rays.skipped = (mapper.used placement.platform.position.z sweep).countP
        (fun point =>
          !frame.grid.lattice.traces placement.sensor.ground ⟨point.ground, false⟩) := by
  obtain ⟨cast, skipped, -⟩ := Grid.tally_of_echoes (made_from_clouds made)
  rw [cast, skipped, Echo.ofClouds, used]
  simp only [List.countP_append, List.countP_map]
  exact ⟨rfl, rfl⟩

end Rays

theorem wanted_corner_eq (mapper : Mapper) (place : Point) :
    mapper.wantedCorner place = mapper.lattice.centered place := rfl

/-- The window around a platform that is its own sensor holds the platform where the window has
room to spare for half a cell and the roundings, and loses it where nothing is rounded and a half
decides against it. A frame that holds its sensor casts a ray for each point that is used and
lies on its grid; a frame that does not casts none. -/
theorem window_holds_platform {mapper : Mapper} (reachable : mapper.Reachable)
    (persistent : mapper.settings.singleFrame = false) {sweep : Sweep} {pose : Pose}
    (placed : sweep.placement = some (.together pose)) (finite : pose.isFinite = true) :
    ∃ frame, mapper.frame sweep = .ok frame ∧
      let cellAt := frame.grid.lattice.cellOf
      let used := mapper.used pose.position.z sweep
      (frame.grid.lattice.origin.isFinite = true →
        (mapper.lattice.Spares pose.ground →
          ∃ cell, cellAt pose.ground = .ok cell ∧ frame.grid.lattice.contains cell = true) ∧
        (mapper.lattice.Misses pose.ground → ¬∃ cell, cellAt pose.ground = .ok cell)) ∧
      ((∃ cell, cellAt pose.ground = .ok cell) →
        frame.rays.cast = used.countP (fun point => (cellAt point.ground).isOk) ∧
        frame.rays.skipped = used.countP (fun point => !(cellAt point.ground).isOk)) ∧
      ((¬∃ cell, cellAt pose.ground = .ok cell) →
        frame.rays.cast = 0 ∧ frame.rays.skipped = used.length) := by
  have sound := sound_of_reachable reachable
  have posed : (Placement.together pose).isFinite = true := by
    rw [Placement.isFinite, Placement.together, finite]
    rfl
  obtain ⟨frame, made, latticeEq, -⟩ := frame_spec sound persistent placed posed
  obtain ⟨placement, parts⟩ := Framing.frame_ok_iff.mp made
  obtain rfl : Placement.together pose = placement :=
    Option.some.inj (placed.symm.trans parts.placed)
  obtain ⟨cast, skipped⟩ := rays_of_frame parts
  simp only [Placement.together] at cast skipped
  refine ⟨frame, made, ?_, ?_, ?_⟩
  · intro cornerFinite
    rw [latticeEq, frameCorner, wanted_corner_eq] at cornerFinite ⊢
    constructor
    · intro spares
      obtain ⟨cell, found⟩ := Lattice.centered_found sound.usable cornerFinite spares
      exact ⟨cell, found, (Lattice.cell_of_ok found).2⟩
    · exact Lattice.centered_lost sound.usable cornerFinite
  · rintro ⟨cell, found⟩
    have traced (point : Point3) : frame.grid.lattice.traces pose.ground ⟨point.ground, false⟩ =
        (frame.grid.lattice.cellOf point.ground).isOk := by
      rw [Lattice.traces, found]
      rfl
    simp only [← traced]
    exact ⟨cast, skipped⟩
  · intro lost
    have untraced (point : Point3) :
        frame.grid.lattice.traces pose.ground ⟨point.ground, false⟩ = false := by
      rw [Lattice.traces]
      cases found : frame.grid.lattice.cellOf pose.ground with
      | ok cell => exact absurd ⟨cell, found⟩ lost
      | error fault => rfl
    constructor
    · rw [cast]
      exact List.countP_eq_zero.mpr fun point _ => by simp [untraced point]
    · rw [skipped]
      exact List.countP_eq_length.mpr fun point _ => by simp [untraced point]

theorem window_holds_platform_row :
    let settings : Settings :=
      { Settings.standard with mapLength := 2, mapResolution := 1, mapHeight := some 1 }
    let sweep : Sweep := ⟨[], [⟨5.25, 0.25, 0⟩], some (.together (.onGround 5.25 0.25))⟩
    ∃ start frame cell, ofSettings settings = .ok start ∧ start.settings.singleFrame = false ∧
      start.frame sweep = .ok frame ∧ frame.grid.lattice.origin = ⟨4, 0⟩ ∧
      frame.grid.lattice.cellOf ⟨5.25, 0.25⟩ = .ok cell ∧
      frame.grid.lattice.contains cell = true ∧
      frame.rays.cast = 1 ∧ frame.rays.skipped = 0 := by
  intro settings sweep
  let start : Mapper :=
    ⟨settings, ⟨.standard, ⟨2, 1, 1, .zero⟩, Array.replicate 2 .unknown, rfl⟩, 0⟩
  have made : ofSettings settings = .ok start := by decide +kernel
  have reachable : start.Reachable := ⟨settings, start, [], made, rfl⟩
  have placed : sweep.placement = some (.together (.onGround 5.25 0.25)) := rfl
  obtain ⟨frame, framed, inside, -⟩ :=
    window_holds_platform reachable rfl placed (by decide +kernel)
  have known : start.frame sweep = .ok ⟨⟨⟨2, 1, 1, ⟨4, 0⟩⟩, #[.unknown, .free], rfl⟩,
      .onGround 5.25 0.25, 0, 1, { cast := 1, freed := 1 }⟩ := by decide +kernel
  have lattice : number start.lattice.resolution = 1 ∧ number start.lattice.origin.x = 0 ∧
      number start.lattice.origin.y = 0 := by decide +kernel
  have center : number (Pose.onGround 5.25 0.25).ground.x = 21 / 4 ∧
      number (Pose.onGround 5.25 0.25).ground.y = 1 / 4 := by decide +kernel
  have columns : Axis.Spares 2 1 0 (21 / 4) :=
    .inl ⟨6, by norm_num, by norm_num, by norm_num [abs_le], .inl (by norm_num)⟩
  have rows : Axis.Spares 1 1 0 (1 / 4) := by
    refine .inl ⟨1, by norm_num, by norm_num, by norm_num [abs_le], .inr ?_⟩
    intro line
    rw [lt_abs]
    rcases le_or_gt line 0 with before | behind
    · have : (line : ℚ) ≤ 0 := by exact_mod_cast before
      left
      linarith
    · have : (1 : ℚ) ≤ line := by exact_mod_cast behind
      right
      linarith
  have spares : start.lattice.Spares (Pose.onGround 5.25 0.25).ground := by
    rw [Lattice.Spares, lattice.1, lattice.2.1, lattice.2.2, center.1, center.2]
    exact ⟨columns, rows⟩
  rw [known] at framed
  cases framed
  obtain ⟨cell, found, held⟩ := (inside (by decide +kernel)).1 spares
  exact ⟨start, _, cell, made, rfl, known, rfl, found, held, rfl, rfl⟩

/-- A platform on the corner of a window of one cell that is taken off it, and one so far out
that two cells are lost in the rounding. -/
theorem window_beside_platform :
    ofSettings (oneCell 1).settings = .ok (oneCell 1) ∧
      (∃ frame, (oneCell 1).frame ⟨[], [⟨0, 0, 0⟩], some (.together .origin)⟩ = .ok frame ∧
        Pose.origin.isFinite = true ∧ frame.grid.lattice.origin = ⟨-1, -1⟩ ∧
        frame.grid.lattice.cellOf Pose.origin.ground = .error (.pointOutside .zero) ∧
        frame.rays.cast = 0 ∧ frame.rays.skipped = 1) ∧
      let settings : Settings := { Settings.standard with mapLength := 2, mapResolution := 1 }
      ∃ start frame, ofSettings settings = .ok start ∧
        start.frame (sweepAt 16777218 0) = .ok frame ∧
        frame.grid.lattice.origin = ⟨16777216, -1⟩ ∧
        frame.grid.lattice.cellOf ⟨16777218, 0⟩ = .error (.pointOutside ⟨16777218, 0⟩) := by
  let lost : Frame :=
    ⟨⟨⟨1, 1, 1, ⟨-1, -1⟩⟩, #[.unknown], rfl⟩, .origin, 0, 1, { skipped := 1 }⟩
  refine ⟨by decide +kernel, ⟨lost, by decide +kernel, rfl, rfl, by decide +kernel, rfl, rfl⟩, ?_⟩
  intro settings
  let start : Mapper :=
    ⟨settings, ⟨.standard, ⟨2, 2, 1, .zero⟩, Array.replicate 4 .unknown, rfl⟩, 0⟩
  let far : Frame :=
    ⟨⟨⟨2, 2, 1, ⟨16777216, -1⟩⟩, Array.replicate 4 .unknown, rfl⟩, .onGround 16777218 0, 0, 0, {}⟩
  exact ⟨start, far, by decide +kernel, by decide +kernel, rfl, by decide +kernel⟩

end Mapper

end EvidenceGrid

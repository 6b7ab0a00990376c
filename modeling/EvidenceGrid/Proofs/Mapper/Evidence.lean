import EvidenceGrid.Proofs.Frame.Reordering
import EvidenceGrid.Proofs.Mapper.Run
import EvidenceGrid.Proofs.Ray.Cells

/-!
The evidence of one cycle. However many rays meet a cell, the frame holds one state there,
and the map revises the cell by it once. So the fusion tally counts cells, those hit and those
passed only; the tally of the rays agrees with it on the former and bounds the latter.
-/

set_option autoImplicit false

namespace EvidenceGrid

theorem BeliefMap.get_of_fused {map after : BeliefMap} {frame : Grid Occupancy}
    {tally : FusionTally} (usable : map.model.Usable) (fused : Fused map frame after tally)
    {cell : Cell} (inside : map.grid.lattice.contains cell = true) :
    frame.lattice.contains cell = true ∧ ∃ belief, after.grid.get cell = .ok belief ∧
      map.model.revise ((map.grid.valueAt? (cell.place + tally.shift)).getD .unknown)
        (frame.stateAt cell) = .ok belief := by
  obtain ⟨width, height, -⟩ := same_shape_iff.mp fused.alike
  have held : frame.lattice.contains cell = true := by
    rw [Lattice.contains, width, height]
    exact inside
  have covers := (Lattice.contains_iff_covers map.grid.lattice cell).mp inside
  obtain ⟨seen, seenAt, value⟩ := fused.value_eq cell.place covers
  have shown := Grid.get_eq_value_at frame cell
  have read := Grid.get_eq_value_at after.grid cell
  rw [seenAt, Option.elim_some, Grid.get_eq_state_at held, Except.ok.injEq] at shown
  rw [value, Option.elim_some, ← shown] at read
  exact ⟨held, _, read, SensorModel.revise_ok usable _ _⟩

namespace Mapper

theorem made_from_clouds {framing : Framing} {sweep : Sweep} {placement : Placement}
    {frame : Frame} (made : framing.Made sweep placement frame) :
    Grid.ofEchoes frame.grid.lattice placement.sensor.ground
      (Echo.ofClouds (framing.cropped placement.platform.position.z sweep.raw)
        (framing.obstacles placement.platform.position.z sweep)) =
      .ok (frame.grid, frame.rays) := by
  rw [Grid.lattice_of_echoes made.cast]
  exact made.cast

/-- A cycle that gives a publication revises every cell of the window once: by a hit where an
obstacle point lies that the filters leave, else by a miss where a ray passes, else by no
evidence. Its fusion tally counts the cells of the first two kinds. The tally of its rays counts
as many cells occupied, and as freed at least those passed only and at most those hit besides. -/
theorem evidence_counted_once {mapper : Mapper} (reachable : mapper.Reachable)
    (persistent : mapper.settings.singleFrame = false) {sweep : Sweep} {after : Mapper}
    {publication : Publication} (ran : mapper.process sweep = (after, .ok publication)) :
    ∃ placement frame fusion, sweep.placement = some placement ∧
      mapper.frame sweep = .ok frame ∧ publication.tally.fusion = some fusion ∧
      let height := placement.platform.position.z
      let sensor := placement.sensor.ground
      let obstacles := mapper.framing.obstacles height sweep
      let returns := mapper.framing.cropped height sweep.raw
      let hit := frame.grid.lattice.hitFrom sensor obstacles
      let traced := frame.grid.lattice.tracedFrom sensor (returns ++ obstacles)
      let rays := publication.tally.rays
      (∀ cloud, mapper.framing.cropped height cloud =
        cloud.filter (mapper.framing.keeps height)) ∧
      obstacles = (mapper.framing.cropped height sweep.obstacle).filter
        (mapper.framing.uses (mapper.framing.cropped height sweep.obstacle) returns) ∧
      fusion.occupied = rays.occupied ∧ fusion.occupied = hit.card ∧
      fusion.free = (traced \ hit).card ∧
      fusion.free ≤ rays.freed ∧ rays.freed ≤ fusion.free + fusion.occupied ∧
      ∀ cell, mapper.lattice.contains cell = true →
        let prior := (mapper.beliefs.grid.valueAt? (cell.place + fusion.shift)).getD .unknown
        let seen : Occupancy :=
          if cell ∈ hit then .occupied else if cell ∈ traced then .free else .unknown
        ∃ belief, after.beliefs.grid.get cell = .ok belief ∧
          mapper.beliefs.model.revise prior seen = .ok belief := by
  have sound := sound_of_reachable reachable
  obtain ⟨placement, placed, finite⟩ := placed_of_process ran
  obtain ⟨frame, fusion, made, -, counted, fused⟩ :=
    fused_of_process sound persistent placed finite ran
  obtain ⟨other, parts⟩ := Framing.frame_ok_iff.mp made
  obtain rfl : placement = other := by
    have same := placed.symm.trans parts.placed
    exact Option.some.inj same
  have cast := made_from_clouds parts
  have rays : publication.tally.rays = frame.rays := by
    rw [process, made] at ran
    exact (tally_of_integrate ran).2.2
  obtain ⟨-, -, occupied, freeLe, freedLe⟩ := Grid.tally_of_echoes cast
  obtain ⟨hitCount, freeCount⟩ := Grid.count_of_clouds cast
  obtain ⟨fusionOccupied, fusionFree⟩ := fused.tally_eq
  refine ⟨placement, frame, fusion, placed, made, counted, Framing.cropped_eq_filter,
    Framing.matched_eq_filter _ _, ?_, ?_, ?_, ?_, ?_, ?_⟩
  · rw [rays, fusionOccupied, occupied]
  · rw [fusionOccupied, hitCount]
  · rw [fusionFree, freeCount]
  · rw [rays, fusionFree]
    exact freeLe
  · rw [rays, fusionFree, fusionOccupied]
    exact freedLe
  · intro cell inside
    obtain ⟨held, belief, read, revised⟩ := BeliefMap.get_of_fused sound.model fused inside
    rw [Grid.seen_in_cell cast held] at revised
    exact ⟨belief, read, revised⟩

/-- Two obstacles in one row, with a point that is cropped and one that is not matched. The ray to
the farther obstacle passes the nearer one's cell. -/
theorem evidence_counted_once_row :
    let settings : Settings :=
      { Settings.standard with
        mapLength := 4, mapResolution := 1, mapHeight := some 1, matchObstacles := true }
    let returns : Cloud := [⟨3.5, 0.5, 0⟩, ⟨2.5, 0.5, 1⟩, ⟨2.75, 0.5, 1⟩]
    let sweep : Sweep := ⟨⟨1.5, 0.5, 9⟩ :: ⟨0.5, 0.5, 0⟩ :: returns, returns,
      some ⟨.onGround 0 0, .onGround 0.5 0.5, .onGround 2 0.5⟩⟩
    settings.singleFrame = false ∧ ∃ start after publication fusion,
      ofSettings settings = .ok start ∧ start.process sweep = (after, .ok publication) ∧
        publication.tally.fusion = some fusion ∧ publication.tally.rays.occupied = 2 ∧
        fusion.occupied = 2 ∧ fusion.free = 2 ∧
        2 ≤ publication.tally.rays.freed ∧ publication.tally.rays.freed ≤ 4 := by
  intro settings returns sweep
  let start : Mapper :=
    ⟨settings, ⟨.standard, ⟨4, 1, 1, .zero⟩, Array.replicate 4 .unknown, rfl⟩, 0⟩
  have made : ofSettings settings = .ok start := by decide +kernel
  have reachable : start.Reachable := ⟨settings, start, [], made, rfl⟩
  have answered : (start.process sweep).2.isOk = true := by
    simp only [process, frame, Framing.frame, Framing.matched, Cloud.matching_eq_filter]
    decide +kernel
  cases result : (start.process sweep).2 with
  | error fault =>
      rw [result] at answered
      cases answered
  | ok publication =>
      have ran : start.process sweep = ((start.process sweep).1, .ok publication) :=
        Prod.ext rfl result
      obtain ⟨placement, frame, fusion, placed, framed, counted, -, -, occupied, hit, free, low,
        high, -⟩ := evidence_counted_once reachable rfl ran
      cases placed
      have hits : (start.frame sweep).map (fun frame =>
          ((frame.grid.lattice.hitFrom ⟨0.5, 0.5⟩ (start.framing.obstacles 0 sweep)).card,
            (frame.grid.lattice.tracedFrom ⟨0.5, 0.5⟩
                (start.framing.cropped 0 sweep.raw ++ start.framing.obstacles 0 sweep) \
              frame.grid.lattice.hitFrom ⟨0.5, 0.5⟩ (start.framing.obstacles 0 sweep)).card)) =
          .ok (2, 2) := by
        simp only [Mapper.frame, Framing.frame, Framing.obstacles, Framing.matched,
          Cloud.matching_eq_filter]
        decide +kernel
      rw [framed] at hits
      obtain ⟨hitCells, freeCells⟩ := Prod.ext_iff.mp (Except.ok.inj hits)
      have two : fusion.occupied = 2 := hit.trans hitCells
      have others : fusion.free = 2 := free.trans freeCells
      rw [others] at low
      rw [two, others] at high
      exact ⟨rfl, start, _, publication, fusion, made, ran, counted, occupied.symm.trans two, two,
        others, low, high⟩

end Mapper

end EvidenceGrid

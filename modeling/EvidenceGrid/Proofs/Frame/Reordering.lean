import EvidenceGrid.Proofs.Frame.InvalidReturn
import EvidenceGrid.Proofs.Ray.Tally

/-!
The order of the points does not matter for a frame. Cropping and matching keep a point for
what it is and for what else is there, also where matching falls back on all points, and casting
marks cells regardless of the order; so the grid depends on which points there are, and the
counts on how often each is there. The tally of freed cells is left out: it does depend on
the order.
-/

set_option autoImplicit false

namespace EvidenceGrid

theorem Echo.mem_of_clouds_iff {raw others obstacle others' : Cloud}
    (returns : ∀ point, point ∈ others ↔ point ∈ raw)
    (obstacles : ∀ point, point ∈ others' ↔ point ∈ obstacle) (echo : Echo) :
    echo ∈ Echo.ofClouds others others' ↔ echo ∈ Echo.ofClouds raw obstacle := by
  simp only [Echo.ofClouds, List.mem_append, List.mem_map, returns, obstacles]

theorem Echo.of_clouds_perm {raw others obstacle others' : Cloud} (returns : others.Perm raw)
    (obstacles : others'.Perm obstacle) :
    (Echo.ofClouds others others').Perm (Echo.ofClouds raw obstacle) :=
  (returns.map _).append (obstacles.map _)

theorem Grid.of_echoes_same {lattice : Lattice} {sensor : Point} {echoes others : List Echo}
    {grid : Grid Occupancy} {rays : RayTally}
    (cast : Grid.ofEchoes lattice sensor echoes = .ok (grid, rays))
    (same : ∀ echo, echo ∈ others ↔ echo ∈ echoes) :
    ∃ otherRays, Grid.ofEchoes lattice sensor others = .ok (grid, otherRays) := by
  obtain ⟨usable, reached⟩ := Grid.of_echoes_ok_iff.mp cast
  have cells : ((Grid.blank lattice).castFrame sensor others).1 = grid := by
    rw [Grid.cast_frame_congr usable sensor fun start cell level =>
      exists_congr fun echo => and_congr_left fun _ => same echo, reached]
  exact ⟨_, Grid.of_echoes_ok_iff.mpr ⟨usable, Prod.ext cells rfl⟩⟩

namespace Framing

variable {framing : Framing}

/-- Whether an obstacle point is used: matching confirms it, or confirms none, or is off. -/
def uses (framing : Framing) (obstacle raw : Cloud) (point : Point3) : Bool :=
  !framing.settings.matchObstacles || framing.confirms raw point ||
    obstacle.all fun other => !framing.confirms raw other

theorem matched_eq_filter (obstacle raw : Cloud) :
    framing.matched obstacle raw = obstacle.filter (framing.uses obstacle raw) := by
  unfold uses
  cases on : framing.settings.matchObstacles with
  | false =>
      rw [matched_off on]
      simp
  | true =>
      rcases framing.some_or_none_confirmed raw obstacle with some | none
      · have notAll : (obstacle.all fun other => !framing.confirms raw other) = false := by
          obtain ⟨other, member, confirmed⟩ := some
          exact List.all_eq_false.mpr ⟨other, member, by simp [confirmed]⟩
        rw [matched_some on some]
        simp [notAll]
      · have all : (obstacle.all fun other => !framing.confirms raw other) = true :=
          List.all_eq_true.mpr fun other member => by simp [none other member]
        rw [matched_none on none]
        simp [all]

section Members

variable {obstacle others raw returns : Cloud}

theorem confirms_congr (same : ∀ point, point ∈ returns ↔ point ∈ raw) :
    framing.confirms returns = framing.confirms raw := by
  funext point
  rw [Bool.eq_iff_iff]
  simp only [confirms, List.any_eq_true, same]

theorem uses_congr (sameObstacles : ∀ point, point ∈ others ↔ point ∈ obstacle)
    (sameReturns : ∀ point, point ∈ returns ↔ point ∈ raw) :
    framing.uses others returns = framing.uses obstacle raw := by
  funext point
  have all : (others.all fun other => !framing.confirms raw other) =
      obstacle.all fun other => !framing.confirms raw other := by
    rw [Bool.eq_iff_iff]
    simp only [List.all_eq_true, sameObstacles]
  rw [uses, uses, confirms_congr sameReturns, all]

theorem mem_cropped_iff (framing : Framing) (height : Float32)
    (same : ∀ point, point ∈ others ↔ point ∈ obstacle)
    (point : Point3) : point ∈ framing.cropped height others ↔ point ∈ framing.cropped height obstacle := by
  rw [cropped_eq_filter, cropped_eq_filter, List.mem_filter, List.mem_filter, same]

theorem mem_matched_iff (sameObstacles : ∀ point, point ∈ others ↔ point ∈ obstacle)
    (sameReturns : ∀ point, point ∈ returns ↔ point ∈ raw) (point : Point3) :
    point ∈ framing.matched others returns ↔ point ∈ framing.matched obstacle raw := by
  rw [matched_eq_filter, matched_eq_filter, uses_congr sameObstacles sameReturns,
    List.mem_filter, List.mem_filter, sameObstacles]

theorem cropped_perm (framing : Framing) (height : Float32) (same : others.Perm obstacle) :
    (framing.cropped height others).Perm (framing.cropped height obstacle) := by
  rw [cropped_eq_filter, cropped_eq_filter]
  exact same.filter _

theorem matched_perm (framing : Framing) (sameObstacles : others.Perm obstacle)
    (sameReturns : returns.Perm raw) :
    (framing.matched others returns).Perm (framing.matched obstacle raw) := by
  rw [matched_eq_filter, matched_eq_filter,
    uses_congr (fun _ => sameObstacles.mem_iff) fun _ => sameReturns.mem_iff]
  exact sameObstacles.filter _

end Members

theorem frame_same_members {sweep : Sweep} {placement : Placement} {frame : Frame}
    (made : framing.Made sweep placement frame) {obstacle raw : Cloud}
    (sameObstacles : ∀ point, point ∈ obstacle ↔ point ∈ sweep.obstacle)
    (sameReturns : ∀ point, point ∈ raw ↔ point ∈ sweep.raw) :
    ∃ other, framing.Made { sweep with obstacle, raw } placement other ∧
      other.grid = frame.grid := by
  have returns := framing.mem_cropped_iff placement.platform.position.z sameReturns
  have obstacles := framing.mem_cropped_iff placement.platform.position.z sameObstacles
  obtain ⟨rays, cast⟩ := Grid.of_echoes_same made.cast
    (Echo.mem_of_clouds_iff returns (mem_matched_iff obstacles returns))
  exact ⟨⟨frame.grid, placement.platform, _, _, rays⟩,
    ⟨made.placed, made.finite, cast, rfl, rfl, rfl⟩, rfl⟩

/-- A frame does not depend on the order of the points: clouds in another order give the
same grid and the same counts of points, of rays cast and skipped and of cells occupied. Nor
does its grid depend on how often a point is there. -/
theorem frame_reordered {sweep : Sweep} {frame : Frame} (made : framing.frame sweep = .ok frame)
    (obstacle raw : Cloud) :
    (obstacle.Perm sweep.obstacle → raw.Perm sweep.raw →
      ∃ other, framing.frame { sweep with obstacle, raw } = .ok other ∧
        other.grid = frame.grid ∧
        other.obstaclePoints = frame.obstaclePoints ∧
        other.rawPoints = frame.rawPoints ∧
        other.rays.cast = frame.rays.cast ∧
        other.rays.skipped = frame.rays.skipped ∧
        other.rays.occupied = frame.rays.occupied) ∧
    ((∀ point, point ∈ obstacle ↔ point ∈ sweep.obstacle) →
      (∀ point, point ∈ raw ↔ point ∈ sweep.raw) →
      ∃ other, framing.frame { sweep with obstacle, raw } = .ok other ∧
        other.grid = frame.grid) := by
  obtain ⟨placement, parts⟩ := frame_ok_iff.mp made
  constructor
  · intro sameObstacles sameReturns
    obtain ⟨other, otherParts, grid⟩ := frame_same_members parts
      (fun _ => sameObstacles.mem_iff) fun _ => sameReturns.mem_iff
    have returns := framing.cropped_perm placement.platform.position.z sameReturns
    have obstacles := framing.matched_perm
      (framing.cropped_perm placement.platform.position.z sameObstacles) returns
    have echoes := Echo.of_clouds_perm returns obstacles
    obtain ⟨cast, skipped, occupied, -⟩ := Grid.tally_of_echoes parts.cast
    obtain ⟨otherCast, otherSkipped, otherOccupied, -⟩ := Grid.tally_of_echoes otherParts.cast
    refine ⟨other, frame_ok_iff.mpr ⟨placement, otherParts⟩, grid, ?_, ?_, ?_, ?_, ?_⟩
    · rw [otherParts.obstaclePoints, parts.obstaclePoints]
      exact obstacles.length_eq
    · rw [otherParts.rawPoints, parts.rawPoints]
      exact returns.length_eq
    · rw [otherCast, cast]
      exact echoes.countP_eq _
    · rw [otherSkipped, skipped]
      exact echoes.countP_eq _
    · rw [otherOccupied, occupied, grid]
  · intro sameObstacles sameReturns
    obtain ⟨other, otherParts, grid⟩ := frame_same_members parts sameObstacles sameReturns
    exact ⟨other, frame_ok_iff.mpr ⟨placement, otherParts⟩, grid⟩

/-- Two obstacles in one row, of which the raw cloud has the nearer one, the other way around and
then each twice; and then with nothing in the raw cloud, where both are used. -/
theorem frame_reordered_row :
    let framing : Framing := ⟨{ Settings.standard with matchObstacles := true }, ⟨4, 1, 1, .zero⟩⟩
    let near : Point3 := ⟨2.5, 0.5, 0⟩
    let far : Point3 := ⟨3.5, 0.5, 1⟩
    let aside : Point3 := ⟨1.5, 0.5, 0⟩
    let placement : Placement := ⟨.onGround 0 0, .onGround 0.5 0.5, .onGround 2 0.5⟩
    ∃ frame reversed repeated alone fallback,
      framing.frame ⟨[near, far], [near, aside], some placement⟩ = .ok frame ∧
      frame.obstaclePoints = 1 ∧ frame.grid.cells = #[.free, .free, .occupied, .unknown] ∧
      framing.frame ⟨[far, near], [aside, near], some placement⟩ = .ok reversed ∧
      reversed.grid = frame.grid ∧ reversed.obstaclePoints = 1 ∧ reversed.rays.occupied = 1 ∧
      framing.frame ⟨[near, far, near, far], [near, aside, aside], some placement⟩ =
        .ok repeated ∧
      repeated.grid = frame.grid ∧
      framing.frame ⟨[near, far], [], some placement⟩ = .ok alone ∧
      alone.obstaclePoints = 2 ∧ alone.grid.cells = #[.free, .free, .occupied, .occupied] ∧
      framing.frame ⟨[far, near], [], some placement⟩ = .ok fallback ∧
      fallback.grid = alone.grid ∧ fallback.obstaclePoints = 2 := by
  have twice (first second point : Point3) :
      point ∈ [first, second, first, second] ↔ point ∈ [first, second] := by
    simp only [List.mem_cons, List.not_mem_nil, or_false]
    tauto
  have again (first second point : Point3) :
      point ∈ [first, second, second] ↔ point ∈ [first, second] := by
    simp only [List.mem_cons, List.not_mem_nil, or_false, or_self]
  intro framing near far aside placement
  let frame : Frame := ⟨⟨⟨4, 1, 1, .zero⟩, #[.free, .free, .occupied, .unknown], rfl⟩,
    .onGround 0 0, 1, 2, { cast := 3, occupied := 1, freed := 3 }⟩
  let alone : Frame := ⟨⟨⟨4, 1, 1, .zero⟩, #[.free, .free, .occupied, .occupied], rfl⟩,
    .onGround 0 0, 2, 0, { cast := 2, occupied := 2, freed := 2 }⟩
  have made : framing.frame ⟨[near, far], [near, aside], some placement⟩ = .ok frame := by
    simp only [Framing.frame, matched, Cloud.matching_eq_filter]
    decide +kernel
  have madeAlone : framing.frame ⟨[near, far], [], some placement⟩ = .ok alone := by
    simp only [Framing.frame, matched, Cloud.matching_eq_filter]
    decide +kernel
  obtain ⟨reversed, reversedMade, sameGrid, samePoints, -, -, -, sameCount⟩ :=
    (frame_reordered made [far, near] [aside, near]).1 (List.Perm.swap _ _ _)
      (List.Perm.swap _ _ _)
  obtain ⟨repeated, repeatedMade, stillSame⟩ :=
    (frame_reordered made [near, far, near, far] [near, aside, aside]).2
      (twice near far) (again near aside)
  obtain ⟨fallback, fallbackMade, fallbackGrid, fallbackPoints, -⟩ :=
    (frame_reordered madeAlone [far, near] []).1 (List.Perm.swap _ _ _) (List.Perm.refl _)
  exact ⟨frame, reversed, repeated, alone, fallback, made, rfl, rfl, reversedMade, sameGrid,
    samePoints, sameCount, repeatedMade, stillSame, madeAlone, rfl, rfl, fallbackMade,
    fallbackGrid, fallbackPoints⟩

/-- The tally of freed cells is another one: the farther ray frees the cell that the nearer
one occupies, if it comes first. -/
example :
    let framing : Framing := ⟨.standard, ⟨4, 1, 1, .zero⟩⟩
    let near : Point3 := ⟨2.5, 0.5, 0⟩
    let far : Point3 := ⟨3.5, 0.5, 1⟩
    let placement : Placement := ⟨.onGround 0 0, .onGround 0.5 0.5, .onGround 2 0.5⟩
    (framing.frame ⟨[near, far], [], some placement⟩).map (fun frame => frame.rays.freed) = .ok 2 ∧
      (framing.frame ⟨[far, near], [], some placement⟩).map (fun frame => frame.rays.freed) =
        .ok 3 := by
  decide +kernel

end Framing

end EvidenceGrid

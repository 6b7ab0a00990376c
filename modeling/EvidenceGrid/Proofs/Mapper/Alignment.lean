import EvidenceGrid.Proofs.Mapper.Run

/-!
Where a frame and the map lie once the frame is taken in. The frame's corner is
brought to the map's lattice when the frame is made and once more when it is taken
in. Both agree as long as the second time finds the count of the first again, as
it does up to `2 ^ 20` cells from the world's origin. Farther out the rounding of
the four operations can add up to half a cell, and the map lands beside the frame.
-/

set_option autoImplicit false

namespace EvidenceGrid

open EvidenceGrid.Binary32

namespace Lattice

theorem axis_snap_snap {corner side target : Float32} (sideFinite : side.isFinite = true)
    (positive : 0 < number side)
    (finite : (axisSnap corner side (axisSnap corner side target)).isFinite = true)
    (cornerNear : |number corner| ≤ 2 ^ 20 * number side)
    (placeNear : |number (axisSnap corner side target)| ≤ 2 ^ 20 * number side) :
    (axisSnap corner side (axisSnap corner side target) == axisSnap corner side target) = true := by
  obtain ⟨-, onceFinite, -⟩ := finite_of_axis_snap finite
  have once := axis_snap_value sideFinite positive onceFinite
  rw [beq_iff finite onceFinite, axis_snap_value sideFinite positive finite, once]
  rw [once] at placeNear
  exact Axis.place_place (on_grid_number corner) (on_grid_number side) positive cornerNear placeNear

variable {lattice : Lattice} {target : Point}

/-- A point within so many cells of the world's origin on both axes. -/
def Within (lattice : Lattice) (cells : ℚ) (point : Point) : Prop :=
  |number point.x| ≤ cells * number lattice.resolution ∧
    |number point.y| ≤ cells * number lattice.resolution

theorem snap_snap (usable : lattice.Usable) (cornerNear : lattice.Within (2 ^ 20) lattice.origin)
    (placeNear : lattice.Within (2 ^ 20) (lattice.snap target))
    (finite : (lattice.snap (lattice.snap target)).isFinite = true) :
    SamePlace (lattice.snap (lattice.snap target)) (lattice.snap target) := by
  obtain ⟨xFinite, yFinite⟩ := (finite_iff _).mp finite
  exact ⟨axis_snap_snap usable.finite usable.positive xFinite cornerNear.1 placeNear.1,
    axis_snap_snap usable.finite usable.positive yFinite cornerNear.2 placeNear.2⟩

end Lattice

theorem BeliefMap.Fused.origin_eq {map after : BeliefMap} {frame : Grid Occupancy}
    {tally : FusionTally} (fused : BeliefMap.Fused map frame after tally)
    (usable : map.grid.lattice.Usable) :
    Lattice.SamePlace after.grid.lattice.origin (map.grid.lattice.snap frame.lattice.origin) := by
  rw [fused.lattice_eq, fused.shift_eq]
  exact Lattice.same_place_settled usable fused.finite

namespace Mapper

open EvidenceGrid.Lattice (SamePlace)

/-- After a cycle the map lies where its frame did exactly when the frame's corner is
its own nearest place on the lattice that the map had before; and so it is when both
corners lie within `2 ^ 20` cells of the world's origin. -/
theorem aligned_iff_snap_fixed {mapper after : Mapper} (reachable : mapper.Reachable)
    (persistent : mapper.settings.singleFrame = false) {sweep : Sweep}
    {publication : Publication} (ran : mapper.process sweep = (after, .ok publication)) :
    ∃ frame, mapper.frame sweep = .ok frame ∧
      (SamePlace after.lattice.origin frame.grid.lattice.origin ↔
        SamePlace (mapper.lattice.snap frame.grid.lattice.origin) frame.grid.lattice.origin) ∧
      (mapper.lattice.Within (2 ^ 20) mapper.lattice.origin →
        mapper.lattice.Within (2 ^ 20) frame.grid.lattice.origin →
          SamePlace after.lattice.origin frame.grid.lattice.origin) := by
  have sound := sound_of_reachable reachable
  obtain ⟨placement, placed, posed⟩ := placed_of_process ran
  obtain ⟨frame, tally, made, latticeEq, -, fused⟩ :=
    fused_of_process sound persistent placed posed ran
  refine ⟨frame, made, ?_⟩
  have moved : SamePlace after.lattice.origin (mapper.lattice.snap frame.grid.lattice.origin) :=
    fused.origin_eq sound.usable
  have snapFinite : (mapper.lattice.snap frame.grid.lattice.origin).isFinite = true := fused.finite
  have frameFinite := (Lattice.finite_of_snap snapFinite).2.1
  have afterFinite : after.lattice.origin.isFinite = true := by
    have kept := sound_call sound (.process sweep)
    rw [call, ran] at kept
    exact kept.finite
  have same : SamePlace after.lattice.origin frame.grid.lattice.origin ↔
      SamePlace (mapper.lattice.snap frame.grid.lattice.origin) frame.grid.lattice.origin := by
    obtain ⟨movedX, movedY⟩ := (Lattice.same_place_iff afterFinite snapFinite).mp moved
    rw [Lattice.same_place_iff afterFinite frameFinite,
      Lattice.same_place_iff snapFinite frameFinite, movedX, movedY]
  constructor
  · exact same
  · intro cornerNear frameNear
    apply same.mpr
    rw [latticeEq] at snapFinite frameNear ⊢
    exact Lattice.snap_snap sound.usable cornerNear frameNear snapFinite

def oneCell (side : Float32) : Mapper :=
  { settings := { Settings.standard with mapLength := side, mapResolution := side }
    beliefs := ⟨.standard, ⟨⟨1, 1, side, .zero⟩, #[.unknown], rfl⟩⟩
    platformHeight := 0 }

def sweepAt (x y : Float32) : Sweep := ⟨[], [], some (.together (.onGround x y))⟩

theorem aligned_at_origin :
    ofSettings (oneCell 1).settings = .ok (oneCell 1) ∧
      ∃ after publication frame, (oneCell 1).process (sweepAt 0 0) = (after, .ok publication) ∧
        (oneCell 1).frame (sweepAt 0 0) = .ok frame ∧
        SamePlace after.lattice.origin frame.grid.lattice.origin := by
  have made : ofSettings (oneCell 1).settings = .ok (oneCell 1) := by decide +kernel
  let after : Mapper :=
    { oneCell 1 with beliefs := ⟨.standard, ⟨⟨1, 1, 1, ⟨-1, -1⟩⟩, #[.unknown], rfl⟩⟩ }
  let publication : Publication :=
    ⟨⟨⟨1, 1, 1, ⟨-1, -1⟩⟩, 0, #[-1]⟩, ⟨0, 0, {}, some ⟨⟨-1, -1⟩, 0, 0⟩⟩⟩
  have ran : (oneCell 1).process (sweepAt 0 0) = (after, .ok publication) := by decide +kernel
  have reachable : (oneCell 1).Reachable := ⟨_, oneCell 1, [], made, rfl⟩
  obtain ⟨frame, framed, same, -⟩ := aligned_iff_snap_fixed reachable rfl ran
  refine ⟨made, after, publication, frame, ran, framed, same.mpr ?_⟩
  have known : (oneCell 1).frame (sweepAt 0 0) =
      .ok ⟨⟨⟨1, 1, 1, ⟨-1, -1⟩⟩, #[.unknown], rfl⟩, .origin, 0, 0, {}⟩ := by decide +kernel
  rw [known] at framed
  cases framed
  decide +kernel

/-- A frame about `2 ^ 22.6` cells out, beside which the map lands. -/
theorem frame_beside_map :
    ofSettings (oneCell 0.1).settings = .ok (oneCell 0.1) ∧
      ∃ after publication frame,
        (oneCell 0.1).process (sweepAt (-640672.3125) 0) = (after, .ok publication) ∧
        (oneCell 0.1).frame (sweepAt (-640672.3125) 0) = .ok frame ∧
        ¬SamePlace after.lattice.origin frame.grid.lattice.origin ∧
        frame.grid.lattice.origin.x = -640672.4375 ∧ after.lattice.origin.x = -640672.5 := by
  let after : Mapper :=
    { oneCell 0.1 with
      beliefs := ⟨.standard, ⟨⟨1, 1, 0.1, ⟨-640672.5, -0.1⟩⟩, #[.unknown], rfl⟩⟩ }
  let publication : Publication :=
    ⟨⟨⟨1, 1, 0.1, ⟨-640672.5, -0.1⟩⟩, 0, #[-1]⟩, ⟨0, 0, {}, some ⟨⟨-1, -1⟩, 0, 0⟩⟩⟩
  let frame : Frame :=
    ⟨⟨⟨1, 1, 0.1, ⟨-640672.4375, -0.1⟩⟩, #[.unknown], rfl⟩, .onGround (-640672.3125) 0, 0, 0, {}⟩
  refine ⟨by decide +kernel, after, publication, frame, ?_, ?_, ?_, rfl, rfl⟩
  all_goals decide +kernel

end Mapper

end EvidenceGrid

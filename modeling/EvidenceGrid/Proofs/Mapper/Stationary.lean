import EvidenceGrid.Proofs.Mapper.Alignment

/-!
A window whose wanted place does not change. Each cycle counts the cells to that
place afresh from the corner the map has, and a half is a whole cell away, so the
window stays exactly when the place is computed less than half a cell from the
corner. One cycle brings it there, save near a tie: a place half-way between two
lattice places is a half away from either, and the window goes from one to the
other with every cycle.
-/

set_option autoImplicit false

namespace EvidenceGrid

open EvidenceGrid.Binary32

namespace Lattice

section Axis

variable {corner side target : Float32}

theorem axis_still_of_half (sideFinite : side.isFinite = true) (positive : 0 < number side)
    (cornerFinite : corner.isFinite = true) (near : ((target - corner) / side).abs < 0.5) :
    (axisCells corner side (axisSnap corner side target)).isFinite = true ∧
      Axis.count (number corner) (number side) (number (axisSnap corner side target)) = 0 := by
  obtain ⟨cellsFinite, none⟩ := count_of_half sideFinite positive near
  obtain ⟨placeFinite, same⟩ :=
    axis_snap_of_count_zero sideFinite positive cornerFinite cellsFinite none
  refine ⟨axis_cells_at_corner sideFinite positive cornerFinite placeFinite same, ?_⟩
  rw [same]
  exact Axis.count_self _ _

theorem axis_count_of_still (sideFinite : side.isFinite = true) (positive : 0 < number side)
    (placeFinite : (axisSnap corner side target).isFinite = true)
    (still : Axis.count (number corner) (number side) (number (axisSnap corner side target)) = 0) :
    Axis.count (number corner) (number side) (number target) = 0 := by
  by_contra some
  rw [axis_snap_value sideFinite positive placeFinite] at still
  exact Axis.count_place_ne_zero (on_grid_number side) positive (on_grid_number corner)
    (on_grid_number target) some still

theorem axis_count_settled {reach : ℚ} (sideFinite : side.isFinite = true)
    (positive : 0 < number side)
    (finite : (axisSnap corner side (axisSnap corner side target)).isFinite = true)
    (enough : 1 ≤ reach) (bounded : reach ≤ 2 ^ 19)
    (cornerNear : |number corner| ≤ reach * number side)
    (targetNear : |number target| ≤ reach * number side)
    (clear : Axis.ClearOfTies (reach * number side / 2 ^ 20) (number target - number corner)
      (number side)) :
    Axis.count (number (axisSnap corner side (axisSnap corner side target))) (number side)
      (number target) = 0 := by
  obtain ⟨-, onceFinite, -⟩ := finite_of_axis_snap finite
  rw [axis_snap_value sideFinite positive finite, axis_snap_value sideFinite positive onceFinite]
  exact Axis.count_settled (on_grid_number side) (on_grid_number corner) (on_grid_number target)
    positive enough bounded cornerNear targetNear clear

end Axis

variable {lattice : Lattice} {target : Point}

/-- A point that is computed less than half a cell from the corner on both axes. -/
def HalfCell (lattice : Lattice) (target : Point) : Prop :=
  (lattice.inCells target).x.abs < 0.5 ∧ (lattice.inCells target).y.abs < 0.5

instance (lattice : Lattice) (target : Point) : Decidable (lattice.HalfCell target) :=
  inferInstanceAs (Decidable (_ ∧ _))

theorem half_cell_of_counts (usable : lattice.Usable)
    (cornerFinite : lattice.origin.isFinite = true) (targetFinite : target.isFinite = true)
    (none : lattice.counts target = .zero) : lattice.HalfCell target := by
  obtain ⟨cornerX, cornerY⟩ := (finite_iff _).mp cornerFinite
  obtain ⟨targetX, targetY⟩ := (finite_iff _).mp targetFinite
  exact ⟨half_of_count usable.finite usable.positive cornerX targetX (congrArg Offset.x none),
    half_of_count usable.finite usable.positive cornerY targetY (congrArg Offset.y none)⟩

theorem still_of_half_cell (usable : lattice.Usable) (cornerFinite : lattice.origin.isFinite = true)
    (near : lattice.HalfCell target) :
    (lattice.snap (lattice.snap target)).isFinite = true ∧
      lattice.shiftTo (lattice.snap target) = .zero := by
  obtain ⟨cornerX, cornerY⟩ := (finite_iff _).mp cornerFinite
  obtain ⟨cellsX, noneX⟩ := axis_still_of_half usable.finite usable.positive cornerX near.1
  obtain ⟨cellsY, noneY⟩ := axis_still_of_half usable.finite usable.positive cornerY near.2
  have finiteX := (axis_snap_of_count_zero usable.finite usable.positive cornerX cellsX noneX).1
  have finiteY := (axis_snap_of_count_zero usable.finite usable.positive cornerY cellsY noneY).1
  have cellsFinite : (lattice.cellsTo (lattice.snap target)).isFinite = true :=
    (finite_iff _).mpr ⟨cellsX, cellsY⟩
  refine ⟨(finite_iff _).mpr ⟨finiteX, finiteY⟩, ?_⟩
  rw [shift_eq_zero_iff usable cellsFinite]
  exact Offset.eq_of_coordinates noneX noneY

theorem half_cell_of_still (usable : lattice.Usable)
    (finite : (lattice.snap (lattice.snap target)).isFinite = true)
    (still : lattice.shiftTo (lattice.snap target) = .zero) : lattice.HalfCell target := by
  obtain ⟨cornerFinite, placeFinite, cellsFinite⟩ := finite_of_snap finite
  obtain ⟨-, targetFinite, -⟩ := finite_of_snap placeFinite
  obtain ⟨placeX, placeY⟩ := (finite_iff _).mp placeFinite
  have none := (shift_eq_zero_iff usable cellsFinite).mp still
  apply half_cell_of_counts usable cornerFinite targetFinite
  exact Offset.eq_of_coordinates
    (axis_count_of_still usable.finite usable.positive placeX (congrArg Offset.x none))
    (axis_count_of_still usable.finite usable.positive placeY (congrArg Offset.y none))

/-- A point that is farther from every tie, on both axes, than a millionth of a cell
for each cell that it and the corner may lie from the world's origin. -/
def ClearOfTies (lattice : Lattice) (reach : ℚ) (target : Point) : Prop :=
  Axis.ClearOfTies (reach * number lattice.resolution / 2 ^ 20)
      (number target.x - number lattice.origin.x) (number lattice.resolution) ∧
    Axis.ClearOfTies (reach * number lattice.resolution / 2 ^ 20)
      (number target.y - number lattice.origin.y) (number lattice.resolution)

theorem half_cell_settled {moved : Lattice} {reach : ℚ} (usable : lattice.Usable)
    (finite : (lattice.snap (lattice.snap target)).isFinite = true)
    (movedEq : moved = { lattice with origin := moved.origin })
    (movedFinite : moved.origin.isFinite = true)
    (same : SamePlace moved.origin (lattice.snap (lattice.snap target)))
    (enough : 1 ≤ reach) (bounded : reach ≤ 2 ^ 19)
    (cornerNear : lattice.Within reach lattice.origin) (targetNear : lattice.Within reach target)
    (clear : lattice.ClearOfTies reach target) : moved.HalfCell target := by
  obtain ⟨placeX, placeY⟩ := (finite_iff _).mp finite
  obtain ⟨sameX, sameY⟩ := (same_place_iff movedFinite finite).mp same
  have side : moved.resolution = lattice.resolution := by rw [movedEq]
  have movedUsable : moved.Usable := by
    rw [movedEq]
    exact Lattice.usable_moved usable _
  have targetFinite := (finite_of_snap (finite_of_snap finite).2.1).2.1
  have noneX := axis_count_settled usable.finite usable.positive placeX enough bounded
    cornerNear.1 targetNear.1 clear.1
  have noneY := axis_count_settled usable.finite usable.positive placeY enough bounded
    cornerNear.2 targetNear.2 clear.2
  apply half_cell_of_counts movedUsable movedFinite targetFinite
  rw [counts, side, sameX, sameY]
  exact Offset.eq_of_coordinates noneX noneY

end Lattice

def Sweep.CenteredAt (sweep : Sweep) (center : Pose) : Prop :=
  ∃ placement, sweep.placement = some placement ∧ placement.isFinite = true ∧
    placement.center = center

namespace Mapper

/-- A cycle that gives a publication and moves the window by no cell. -/
def Stays (mapper : Mapper) (sweep : Sweep) : Prop :=
  ∃ after publication tally, mapper.process sweep = (after, .ok publication) ∧
    publication.tally.fusion = some tally ∧ tally.shift = .zero ∧
    after.lattice = mapper.lattice

section Stays

variable {mapper : Mapper} {sweep : Sweep} {center : Pose}

theorem stays_iff (sound : mapper.Sound) (persistent : mapper.settings.singleFrame = false)
    (centered : sweep.CenteredAt center) :
    mapper.Stays sweep ↔ mapper.lattice.HalfCell (mapper.wantedCorner center.ground) := by
  obtain ⟨placement, placed, posed, rfl⟩ := centered
  constructor
  · rintro ⟨after, publication, tally, ran, counted, still, -⟩
    obtain ⟨frame, own, -, latticeEq, ownCounted, fused⟩ :=
      fused_of_process sound persistent placed posed ran
    rw [ownCounted] at counted
    cases counted
    have finite := fused.finite
    have shift := fused.shift_eq
    rw [latticeEq] at finite shift
    rw [still] at shift
    exact Lattice.half_cell_of_still sound.usable finite shift.symm
  · intro near
    obtain ⟨finite, still⟩ := Lattice.still_of_half_cell sound.usable sound.finite near
    obtain ⟨frame, -, latticeEq, taken⟩ := process_spec sound persistent placed posed
    rcases taken with ⟨beliefs, tally, publication, processed, counted, fused⟩ | ⟨_, _, infinite⟩
    · have shift := fused.shift_eq
      rw [latticeEq] at shift
      have none : tally.shift = .zero := shift.trans still
      refine ⟨_, publication, tally, processed, counted, none, ?_⟩
      have moved := fused.lattice_eq
      rw [if_pos none] at moved
      exact moved
    · rw [frameCorner, finite] at infinite
      cases infinite

theorem run_stays (sound : mapper.Sound) (persistent : mapper.settings.singleFrame = false)
    (near : mapper.lattice.HalfCell (mapper.wantedCorner center.ground)) (sweeps : List Sweep)
    (centered : ∀ sweep ∈ sweeps, sweep.CenteredAt center) :
    (mapper.run (sweeps.map .process)).Sound ∧
      (mapper.run (sweeps.map .process)).settings = mapper.settings ∧
      (mapper.run (sweeps.map .process)).lattice = mapper.lattice := by
  induction sweeps using List.reverseRecOn with
  | nil => exact ⟨sound, rfl, rfl⟩
  | append_singleton sweeps sweep ih =>
      obtain ⟨reached, same, kept⟩ := ih fun sweep member => centered sweep (by simp [member])
      rw [List.map_append, List.map_singleton, run_snoc]
      set before := mapper.run (sweeps.map .process)
      have wanted : before.wantedCorner center.ground = mapper.wantedCorner center.ground := by
        rw [wantedCorner, kept, ← wantedCorner]
      have stays : before.Stays sweep := by
        rw [stays_iff reached (by rw [same]; exact persistent) (centered sweep (by simp)), kept,
          wanted]
        exact near
      obtain ⟨after, publication, tally, ran, -, -, unmoved⟩ := stays
      refine ⟨sound_call reached _, (settings_call before _).trans same, ?_⟩
      change (before.process sweep).1.lattice = mapper.lattice
      rw [ran, unmoved, kept]

theorem corner_after (sound : mapper.Sound) (persistent : mapper.settings.singleFrame = false)
    (centered : sweep.CenteredAt center) {after : Mapper} {publication : Publication}
    (ran : mapper.process sweep = (after, .ok publication)) :
    (mapper.lattice.snap (mapper.lattice.snap (mapper.wantedCorner center.ground))).isFinite =
        true ∧
      Lattice.SamePlace after.lattice.origin
        (mapper.lattice.snap (mapper.lattice.snap (mapper.wantedCorner center.ground))) ∧
      after.lattice = { mapper.lattice with origin := after.lattice.origin } := by
  obtain ⟨placement, placed, posed, rfl⟩ := centered
  obtain ⟨frame, tally, -, latticeEq, -, fused⟩ :=
    fused_of_process sound persistent placed posed ran
  have finite := fused.finite
  have moved := fused.origin_eq sound.usable
  rw [latticeEq] at finite moved
  refine ⟨finite, moved, ?_⟩
  have rolled : after.lattice = _ := fused.lattice_eq
  rw [rolled]
  rfl

end Stays

/-- After a cycle around a place, every next one around it leaves the window where it
is exactly when the place is computed less than half a cell from the corner that the
map has by then. If so, all later ones leave it there too. And it is so when the
first cycle was not near a tie, up to `2 ^ 19` cells from the world's origin. -/
theorem stationary_stays_iff {mapper after : Mapper} (reachable : mapper.Reachable)
    (persistent : mapper.settings.singleFrame = false) {center : Pose} {first : Sweep}
    (centered : first.CenteredAt center) {publication : Publication}
    (ran : mapper.process first = (after, .ok publication)) :
    (∀ second, second.CenteredAt center →
      (after.Stays second ↔ after.lattice.HalfCell (after.wantedCorner center.ground))) ∧
    (after.lattice.HalfCell (after.wantedCorner center.ground) →
      ∀ earlier : List Sweep, (∀ sweep ∈ earlier, sweep.CenteredAt center) →
        (after.run (earlier.map .process)).lattice = after.lattice ∧
        ∀ next, next.CenteredAt center → (after.run (earlier.map .process)).Stays next) ∧
    ∀ reach : ℚ, 1 ≤ reach → reach ≤ 2 ^ 19 →
      mapper.lattice.Within reach mapper.lattice.origin →
      mapper.lattice.Within reach (mapper.wantedCorner center.ground) →
      mapper.lattice.ClearOfTies reach (mapper.wantedCorner center.ground) →
        after.lattice.HalfCell (after.wantedCorner center.ground) := by
  have sound := sound_of_reachable reachable
  have afterSound : after.Sound := by
    have kept := sound_call sound (.process first)
    rwa [call, ran] at kept
  have afterPersistent : after.settings.singleFrame = false := by
    have kept := settings_call mapper (.process first)
    rw [call, ran] at kept
    rw [kept, persistent]
  refine ⟨?_, ?_, ?_⟩
  · intro second secondCentered
    exact stays_iff afterSound afterPersistent secondCentered
  · intro near earlier earlierCentered
    obtain ⟨reached, same, kept⟩ :=
      run_stays afterSound afterPersistent near earlier earlierCentered
    constructor
    · exact kept
    · intro next nextCentered
      rw [stays_iff reached (by rw [same, afterPersistent]) nextCentered, wantedCorner, kept]
      exact near
  · intro reach enough bounded cornerNear wantedNear clear
    obtain ⟨finite, moved, latticeEq⟩ := corner_after sound persistent centered ran
    have wanted : after.wantedCorner center.ground = mapper.wantedCorner center.ground := by
      rw [wantedCorner, latticeEq]
      rfl
    rw [wanted]
    exact Lattice.half_cell_settled sound.usable finite latticeEq afterSound.finite moved enough
      bounded cornerNear wantedNear clear

theorem window_stays_beside_place :
    ∃ moved publication, (oneCell 1).process (sweepAt 1.25 1.25) = (moved, .ok publication) ∧
      moved.lattice.origin = ⟨1, 1⟩ ∧ moved.Stays (sweepAt 1.25 1.25) := by
  let moved : Mapper :=
    { oneCell 1 with beliefs := ⟨.standard, ⟨⟨1, 1, 1, ⟨1, 1⟩⟩, #[.unknown], rfl⟩⟩ }
  let publication : Publication :=
    ⟨⟨⟨1, 1, 1, ⟨1, 1⟩⟩, 0, #[-1]⟩, ⟨0, 0, {}, some ⟨⟨1, 1⟩, 0, 0⟩⟩⟩
  have made : ofSettings (oneCell 1).settings = .ok (oneCell 1) := by decide +kernel
  have reachable : (oneCell 1).Reachable := ⟨_, oneCell 1, [], made, rfl⟩
  have ran : (oneCell 1).process (sweepAt 1.25 1.25) = (moved, .ok publication) := by
    decide +kernel
  have centered : (sweepAt 1.25 1.25).CenteredAt (.onGround 1.25 1.25) :=
    ⟨_, rfl, by decide +kernel, rfl⟩
  obtain ⟨stays, -, settled⟩ := stationary_stays_iff reachable rfl centered ran
  refine ⟨moved, publication, ran, rfl, (stays _ centered).mpr ?_⟩
  have side : number (oneCell 1).lattice.resolution = 1 := by decide +kernel
  have corner : number (oneCell 1).lattice.origin.x = 0 ∧
      number (oneCell 1).lattice.origin.y = 0 := by decide +kernel
  have wanted : number ((oneCell 1).wantedCorner (Pose.onGround 1.25 1.25).ground).x = 3 / 4 ∧
      number ((oneCell 1).wantedCorner (Pose.onGround 1.25 1.25).ground).y = 3 / 4 := by
    decide +kernel
  have clear : Axis.ClearOfTies (1 * 1 / 2 ^ 20) (3 / 4 - 0) 1 :=
    Axis.clear_of_close one_pos 1 (by norm_num [abs_lt])
  refine settled 1 le_rfl (by norm_num) ?_ ?_ ?_
  · rw [Lattice.Within, side, corner.1, corner.2]
    norm_num
  · rw [Lattice.Within, side, wanted.1, wanted.2]
    norm_num [abs_le]
  · rw [Lattice.ClearOfTies, side, corner.1, corner.2, wanted.1, wanted.2]
    exact ⟨clear, clear⟩

/-- Around a place half-way between two cells the window goes back and forth. -/
theorem window_swings_at_tie :
    ofSettings (oneCell 1).settings = .ok (oneCell 1) ∧
      ∃ away back first second tally,
        (oneCell 1).process (sweepAt 0 0) = (away, .ok first) ∧
        away.process (sweepAt 0 0) = (back, .ok second) ∧
        second.tally.fusion = some tally ∧ tally.shift = ⟨1, 1⟩ ∧
        away.lattice.origin = ⟨-1, -1⟩ ∧ back.lattice.origin = .zero := by
  let place (origin : Point) : Mapper :=
    { oneCell 1 with beliefs := ⟨.standard, ⟨⟨1, 1, 1, origin⟩, #[.unknown], rfl⟩⟩ }
  let publication (origin : Point) (shift : Offset) : Publication :=
    ⟨⟨⟨1, 1, 1, origin⟩, 0, #[-1]⟩, ⟨0, 0, {}, some ⟨shift, 0, 0⟩⟩⟩
  refine ⟨by decide +kernel, place ⟨-1, -1⟩, place .zero, publication ⟨-1, -1⟩ ⟨-1, -1⟩,
    publication .zero ⟨1, 1⟩, ⟨⟨1, 1⟩, 0, 0⟩, ?_, ?_, rfl, rfl, rfl, rfl⟩
  all_goals decide +kernel

end Mapper

end EvidenceGrid

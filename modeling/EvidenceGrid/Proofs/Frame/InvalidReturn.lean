import EvidenceGrid.Proofs.Cloud
import EvidenceGrid.Proofs.Ray

/-!
What a return without a place on the ground does to a frame. Casting skips it, so
it reaches no cell by itself. Matching, however, gives it a cube, in which a
coordinate that is not a number counts as zero: such a return can be matched there, and
then decides on other points. Here is exactly when it does, and that the grid is the
same when it does not. The counts of a frame see the return in any case.
-/

set_option autoImplicit false

namespace EvidenceGrid

theorem Grid.cast_frame_inserted {grid : Grid Occupancy} (usable : grid.lattice.Usable)
    (echo : Echo) {fault : Fault} (lost : grid.lattice.cellOf echo.point = .error fault)
    {echoes longer : List Echo} (inserted : Inserted echo echoes longer) (sensor : Point) :
    (grid.castFrame sensor longer).1 = (grid.castFrame sensor echoes).1 := by
  apply cast_frame_congr usable
  intro start cell level
  simp [EchoesShow, inserted.mem_iff, lost]

theorem Grid.cast_frame_same_but {grid : Grid Occupancy} (usable : grid.lattice.Usable)
    {point : Point3} {fault : Fault} (lost : grid.lattice.cellOf point.ground = .error fault)
    {raw noisyRaw obstacle noisyObstacle : Cloud} (returns : SameBut point raw noisyRaw)
    (obstacles : SameBut point obstacle noisyObstacle) (sensor : Point) :
    (grid.castFrame sensor (Echo.ofClouds noisyRaw noisyObstacle)).1 =
      (grid.castFrame sensor (Echo.ofClouds raw obstacle)).1 := by
  trans (grid.castFrame sensor (Echo.ofClouds raw noisyObstacle)).1
  · rcases returns with rfl | inserted
    · rfl
    · exact cast_frame_inserted usable ⟨point.ground, false⟩ lost
        ((inserted.map _).append_right _) sensor
  · rcases obstacles with rfl | inserted
    · rfl
    · exact cast_frame_inserted usable ⟨point.ground, true⟩ lost
        ((inserted.map _).append_left _) sensor

namespace Framing

variable {framing : Framing} {height : Float32} {point : Point3}

def keeps (framing : Framing) (height : Float32) (point : Point3) : Bool :=
  !framing.settings.cropHeights ||
    (framing.settings.minHeight ≤ point.z - height && point.z - height ≤ framing.settings.maxHeight)

theorem cropped_eq_filter (cloud : Cloud) :
    framing.cropped height cloud = cloud.filter (framing.keeps height) := by
  rw [cropped]
  unfold keeps
  split_ifs with crops
  · simp only [Cloud.crop, crops, Bool.not_true, Bool.false_or]
  · simp [crops]

theorem cropped_same_but (framing : Framing) (height : Float32) {cloud noisy : Cloud}
    (same : SameBut point cloud noisy) :
    SameBut point (framing.cropped height cloud) (framing.cropped height noisy) := by
  rw [cropped_eq_filter, cropped_eq_filter]
  exact same.filter _

def confirms (framing : Framing) (raw : Cloud) (point : Point3) : Bool :=
  raw.any (Cloud.touches framing.settings.matchTolerance point)

section Matched

variable {obstacle raw noisy : Cloud}

theorem matched_off (off : framing.settings.matchObstacles = false) :
    framing.matched obstacle raw = obstacle := by
  rw [matched, off]
  rfl

theorem matched_some (on : framing.settings.matchObstacles = true)
    (some : ∃ other ∈ obstacle, framing.confirms raw other = true) :
    framing.matched obstacle raw = obstacle.filter (framing.confirms raw) := by
  have used : (obstacle.filter (framing.confirms raw)).isEmpty = false := by
    obtain ⟨other, member, confirmed⟩ := some
    have kept := List.mem_filter.mpr ⟨member, confirmed⟩
    exact List.isEmpty_eq_false_iff.mpr (List.ne_nil_of_mem kept)
  rw [matched, if_pos on, Cloud.matching_eq_filter]
  exact if_neg (Bool.not_eq_true _ |>.mpr used)

theorem matched_none (on : framing.settings.matchObstacles = true)
    (none : ∀ other ∈ obstacle, framing.confirms raw other = false) :
    framing.matched obstacle raw = obstacle := by
  have unused : obstacle.filter (framing.confirms raw) = [] := by
    rw [List.filter_eq_nil_iff]
    intro other member
    rw [none other member]
    exact Bool.false_ne_true
  rw [matched, if_pos on, Cloud.matching_eq_filter]
  exact if_pos (List.isEmpty_iff.mpr unused)

theorem some_or_none_confirmed (framing : Framing) (raw obstacle : Cloud) :
    (∃ other ∈ obstacle, framing.confirms raw other = true) ∨
      ∀ other ∈ obstacle, framing.confirms raw other = false := by
  by_cases some : ∃ other ∈ obstacle, framing.confirms raw other = true
  · exact Or.inl some
  · refine Or.inr fun other member => Bool.eq_false_iff.mpr fun confirmed => ?_
    exact some ⟨other, member, confirmed⟩

/-- One more obstacle point takes others away exactly when it alone is confirmed. -/
theorem matched_same_but_iff (on : framing.settings.matchObstacles = true)
    (inserted : Inserted point obstacle noisy) :
    SameBut point (framing.matched obstacle raw) (framing.matched noisy raw) ↔
      (framing.confirms raw point = true →
        obstacle = [] ∨ ∃ other ∈ obstacle, framing.confirms raw other = true) := by
  rcases framing.some_or_none_confirmed raw obstacle with some | none
  · obtain ⟨other, member, confirmed⟩ := some
    rw [matched_some on ⟨other, member, confirmed⟩,
      matched_some on ⟨other, inserted.mem_iff.mpr (Or.inr member), confirmed⟩]
    exact iff_of_true (SameBut.filter (Or.inr inserted) _) fun _ =>
      Or.inr ⟨other, member, confirmed⟩
  · rw [matched_none on none]
    cases choice : framing.confirms raw point with
    | false =>
        have noneStill : ∀ other ∈ noisy, framing.confirms raw other = false := by
          intro other member
          rcases inserted.mem_iff.mp member with rfl | member
          · exact choice
          · exact none other member
        rw [matched_none on noneStill]
        exact iff_of_true (Or.inr inserted) (by simp)
    | true =>
        -- All points were used for want of a confirmed one; now there is one, and it alone is.
        have dropped : obstacle.filter (framing.confirms raw) = [] := by
          simpa [List.filter_eq_nil_iff] using none
        have alone := inserted.filter_kept choice
        rw [dropped] at alone
        rw [matched_some on ⟨point, inserted.mem_iff.mpr (Or.inl rfl), choice⟩]
        constructor
        · rintro (same | again) _
          · have member : point ∈ obstacle := same ▸ alone.mem_iff.mpr (Or.inl rfl)
            rw [none point member] at choice
            cases choice
          · have short := again.length_eq.symm.trans alone.length_eq
            exact Or.inl (List.length_eq_zero_iff.mp (Nat.succ.inj short))
        · intro possible
          rcases possible rfl with rfl | ⟨other, member, confirmed⟩
          · exact Or.inr alone
          · rw [none other member] at confirmed
            cases confirmed

theorem confirms_inserted (framing : Framing) (inserted : Inserted point raw noisy)
    (other : Point3) : framing.confirms noisy other = true ↔
      Cloud.touches framing.settings.matchTolerance other point = true ∨
        framing.confirms raw other = true := by
  simp only [confirms, List.any_eq_true, inserted.mem_iff, or_and_right, exists_or,
    exists_eq_left]

theorem matched_eq_iff (on : framing.settings.matchObstacles = true)
    (inserted : Inserted point raw noisy) :
    framing.matched obstacle noisy = framing.matched obstacle raw ↔
      (∀ other ∈ obstacle, Cloud.touches framing.settings.matchTolerance other point = true →
        framing.confirms raw other = true) ∨
      ∀ other ∈ obstacle, framing.confirms raw other = false ∧
        Cloud.touches framing.settings.matchTolerance other point = true := by
  have more := confirms_inserted framing inserted
  rcases framing.some_or_none_confirmed raw obstacle with some | none
  · obtain ⟨other, member, confirmed⟩ := some
    rw [matched_some on ⟨other, member, confirmed⟩,
      matched_some on ⟨other, member, (more other).mpr (Or.inr confirmed)⟩]
    constructor
    · intro same
      refine Or.inl fun found held touched => ?_
      have used : found ∈ obstacle.filter (framing.confirms noisy) :=
        List.mem_filter.mpr ⟨held, (more found).mpr (Or.inl touched)⟩
      rw [same] at used
      exact (List.mem_filter.mp used).2
    · rintro (known | fresh)
      · apply List.filter_congr
        intro found held
        rw [Bool.eq_iff_iff, more]
        exact or_iff_right_of_imp (known found held)
      · rw [(fresh other member).1] at confirmed
        cases confirmed
  · rw [matched_none on none]
    rcases framing.some_or_none_confirmed noisy obstacle with some | noneStill
    · rw [matched_some on some, List.filter_eq_self]
      constructor
      · intro all
        refine Or.inr fun other member => ⟨none other member, ?_⟩
        exact ((more other).mp (all other member)).resolve_right (by simp [none other member])
      · rintro (known | fresh) found held
        · obtain ⟨other, member, confirmed⟩ := some
          have old := ((more other).mp confirmed).elim (known other member) id
          rw [none other member] at old
          cases old
        · exact (more found).mpr (Or.inl (fresh found held).2)
    · rw [matched_none on noneStill]
      refine iff_of_true rfl (Or.inl fun other member touched => ?_)
      have confirmed := (more other).mpr (Or.inl touched)
      rw [noneStill other member] at confirmed
      cases confirmed

end Matched

def obstacles (framing : Framing) (height : Float32) (sweep : Sweep) : Cloud :=
  framing.matched (framing.cropped height sweep.obstacle) (framing.cropped height sweep.raw)

section Sweep

variable {sweep : Sweep} {noisy : Cloud}

theorem obstacles_same_but_iff (inserted : Inserted point sweep.obstacle noisy) :
    SameBut point (framing.obstacles height sweep)
        (framing.obstacles height { sweep with obstacle := noisy }) ↔
      (framing.settings.matchObstacles = true → framing.keeps height point = true →
        framing.confirms (framing.cropped height sweep.raw) point = true →
          framing.cropped height sweep.obstacle = [] ∨
          ∃ other ∈ framing.cropped height sweep.obstacle,
            framing.confirms (framing.cropped height sweep.raw) other = true) := by
  simp only [obstacles]
  cases on : framing.settings.matchObstacles with
  | false =>
      rw [matched_off on, matched_off on]
      exact iff_of_true (cropped_same_but framing height (Or.inr inserted)) (by simp)
  | true =>
      rw [cropped_eq_filter noisy, cropped_eq_filter sweep.obstacle]
      cases kept : framing.keeps height point with
      | false =>
          rw [inserted.filter_dropped kept]
          exact iff_of_true (Or.inl rfl) (by simp)
      | true =>
          rw [matched_same_but_iff on (inserted.filter_kept kept)]
          simp

theorem obstacles_eq_iff (inserted : Inserted point sweep.raw noisy) :
    framing.obstacles height { sweep with raw := noisy } = framing.obstacles height sweep ↔
      (framing.settings.matchObstacles = true → framing.keeps height point = true →
        (∀ other ∈ framing.cropped height sweep.obstacle,
          Cloud.touches framing.settings.matchTolerance other point = true →
            framing.confirms (framing.cropped height sweep.raw) other = true) ∨
        ∀ other ∈ framing.cropped height sweep.obstacle,
          framing.confirms (framing.cropped height sweep.raw) other = false ∧
            Cloud.touches framing.settings.matchTolerance other point = true) := by
  simp only [obstacles]
  cases on : framing.settings.matchObstacles with
  | false =>
      rw [matched_off on, matched_off on]
      simp
  | true =>
      rw [cropped_eq_filter noisy, cropped_eq_filter sweep.raw]
      cases kept : framing.keeps height point with
      | false =>
          rw [inserted.filter_dropped kept]
          simp
      | true =>
          rw [matched_eq_iff on (inserted.filter_kept kept)]
          simp

theorem frame_grid_same_but (invalid : point.x.isNaN = true ∨ point.y.isNaN = true)
    {other : Sweep} (placed : other.placement = sweep.placement)
    (same : ∀ placement, sweep.placement = some placement →
      SameBut point (framing.cropped placement.platform.position.z sweep.raw)
        (framing.cropped placement.platform.position.z other.raw) ∧
      SameBut point (framing.obstacles placement.platform.position.z sweep)
        (framing.obstacles placement.platform.position.z other)) :
    (framing.frame other).map Frame.grid = (framing.frame sweep).map Frame.grid := by
  rw [frame, frame, placed]
  cases taken : sweep.placement with
  | none => rfl
  | some placement =>
      obtain ⟨returns, obstacles⟩ := same placement taken
      simp only
      split_ifs
      · rfl
      · set lattice : Lattice :=
          { framing.anchor with origin := framing.corner placement.center.ground }
        cases checked : lattice.validate with
        | error fault =>
            simp only [Grid.ofEchoes, Grid.filled_eq, checked]
            rfl
        | ok =>
            have usable := (Lattice.validate_ok_iff lattice).mp checked
            let grid : Grid Occupancy :=
              ⟨lattice, Array.replicate lattice.area .unknown, Array.size_replicate⟩
            have lost := lattice.cell_of_nan point.ground invalid
            have cells := grid.cast_frame_same_but usable lost returns obstacles
              placement.sensor.ground
            simp only [Grid.ofEchoes, Grid.filled_eq, checked]
            exact congrArg Except.ok cells

end Sweep

/-- What one more return that is not a number somewhere on the ground does to a frame. As
an obstacle point it takes others away exactly when the crop lets it pass and it alone is
matched; as a return of the raw cloud it changes which obstacle points are used exactly when
the crop lets it pass and it confirms some of them that nothing else does, unless all are
used either way. Whenever it leaves the other points alone, the frame has the same grid. -/
theorem invalid_return_inert_iff (framing : Framing) (sweep : Sweep) {point : Point3}
    (invalid : point.x.isNaN = true ∨ point.y.isNaN = true) (noisy : Cloud) :
    (Inserted point sweep.obstacle noisy →
      (∀ height, SameBut point (framing.obstacles height sweep)
          (framing.obstacles height { sweep with obstacle := noisy }) ↔
        (framing.settings.matchObstacles = true → framing.keeps height point = true →
          framing.confirms (framing.cropped height sweep.raw) point = true →
            framing.cropped height sweep.obstacle = [] ∨
            ∃ other ∈ framing.cropped height sweep.obstacle,
              framing.confirms (framing.cropped height sweep.raw) other = true)) ∧
      ((∀ placement, sweep.placement = some placement →
          SameBut point (framing.obstacles placement.platform.position.z sweep)
            (framing.obstacles placement.platform.position.z { sweep with obstacle := noisy })) →
        (framing.frame { sweep with obstacle := noisy }).map Frame.grid =
          (framing.frame sweep).map Frame.grid)) ∧
    (Inserted point sweep.raw noisy →
      (∀ height, SameBut point (framing.cropped height sweep.raw)
          (framing.cropped height noisy) ∧
        (framing.obstacles height { sweep with raw := noisy } = framing.obstacles height sweep ↔
          (framing.settings.matchObstacles = true → framing.keeps height point = true →
            (∀ other ∈ framing.cropped height sweep.obstacle,
              Cloud.touches framing.settings.matchTolerance other point = true →
                framing.confirms (framing.cropped height sweep.raw) other = true) ∨
            ∀ other ∈ framing.cropped height sweep.obstacle,
              framing.confirms (framing.cropped height sweep.raw) other = false ∧
                Cloud.touches framing.settings.matchTolerance other point = true))) ∧
      ((∀ placement, sweep.placement = some placement →
          framing.obstacles placement.platform.position.z { sweep with raw := noisy } =
            framing.obstacles placement.platform.position.z sweep) →
        (framing.frame { sweep with raw := noisy }).map Frame.grid =
          (framing.frame sweep).map Frame.grid)) := by
  constructor
  · intro inserted
    refine ⟨fun height => obstacles_same_but_iff inserted, fun same => ?_⟩
    exact frame_grid_same_but invalid rfl fun placement placed =>
      ⟨Or.inl rfl, same placement placed⟩
  · intro inserted
    have returns (height : Float32) := framing.cropped_same_but height (Or.inr inserted)
    refine ⟨fun height => ⟨returns height, obstacles_eq_iff inserted⟩, fun same => ?_⟩
    exact frame_grid_same_but invalid rfl fun placement placed =>
      ⟨returns _, Or.inl (same placement placed)⟩

def matchingCell : Framing :=
  ⟨{ Settings.standard with mapLength := 1, mapResolution := 1, matchObstacles := true },
    ⟨1, 1, 1, .zero⟩⟩

def axisSweep : Sweep :=
  ⟨[⟨0.25, 0.25, 0⟩], [⟨0, 0.25, 0⟩], some (.together (.onGround 0.5 0.5))⟩

def halfReturn (y : Float32) : Point3 := ⟨0 / 0, y, 0⟩

theorem invalid_return_inert_far :
    (halfReturn 0.75).x.isNaN = true ∧
      Inserted (halfReturn 0.75) axisSweep.raw (halfReturn 0.75 :: axisSweep.raw) ∧
      (matchingCell.frame { axisSweep with raw := halfReturn 0.75 :: axisSweep.raw }).map
        Frame.grid = (matchingCell.frame axisSweep).map Frame.grid := by
  have invalid : (halfReturn 0.75).x.isNaN = true := by decide +kernel
  have inserted : Inserted (halfReturn 0.75) axisSweep.raw (halfReturn 0.75 :: axisSweep.raw) :=
    ⟨[], axisSweep.raw, rfl, rfl⟩
  obtain ⟨same, inert⟩ := (invalid_return_inert_iff matchingCell axisSweep (Or.inl invalid)
    (halfReturn 0.75 :: axisSweep.raw)).2 inserted
  refine ⟨invalid, inserted, inert fun placement placed => ?_⟩
  cases placed
  rw [(same _).2]
  decide +kernel

/-- The invalid return is matched where the other obstacle point is not, and so takes its
place, though no ray is cast to it. -/
theorem invalid_return_hides_obstacle :
    matchingCell.settings.validate = .ok () ∧
      matchingCell.settings.lattice = .ok matchingCell.anchor ∧
      (halfReturn 0.25).x.isNaN = true ∧
      (matchingCell.frame axisSweep).map (fun frame => frame.grid.cells) = .ok #[.occupied] ∧
      (matchingCell.frame
        { axisSweep with obstacle := axisSweep.obstacle ++ [halfReturn 0.25] }).map
          (fun frame => frame.grid.cells) = .ok #[.free] := by
  simp only [frame, matched, Cloud.matching_eq_filter]
  decide +kernel

end Framing

end EvidenceGrid

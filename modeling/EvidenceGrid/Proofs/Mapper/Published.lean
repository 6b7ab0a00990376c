import EvidenceGrid.Proofs.Lattice.Window
import EvidenceGrid.Proofs.Mapper.Alignment
import EvidenceGrid.Proofs.Mapper.Safety

/-!
Where a published map lies. A map that persists is brought to each frame, and a frame whose
corner is not finite is refused there. A frame that stands alone is published as it was made,
and nothing looks at its corner; it is finite for windows and places of less than half the
greatest size, and not always beyond.
-/

set_option autoImplicit false

namespace EvidenceGrid

open EvidenceGrid.Binary32

theorem Pose.ground_finite {pose : Pose} (finite : pose.isFinite = true) :
    pose.ground.isFinite = true := by
  simp only [isFinite, Point3.isFinite, Bool.and_eq_true] at finite
  exact (Lattice.finite_iff _).mpr finite.1.1

theorem Placement.center_finite {placement : Placement} (finite : placement.isFinite = true) :
    placement.center.isFinite = true := by
  rw [isFinite, Bool.and_eq_true] at finite
  exact finite.2

namespace Mapper

section Published

variable {mapper : Mapper} {sweep : Sweep} {frame : Frame}

theorem process_refuses (sound : mapper.Sound) (persistent : mapper.settings.singleFrame = false)
    (made : mapper.frame sweep = .ok frame)
    (infinite : frame.grid.lattice.origin.isFinite = false) :
    mapper.process sweep =
      ({ mapper with platformHeight := frame.platform.position.z },
        .error (.geometry (.originNotFinite frame.grid.lattice.origin))) := by
  rw [process, made]
  rcases BeliefMap.update_spec sound.model frame.grid with
    ⟨beliefs, tally, -, fused⟩ | ⟨fault, refused, refusal⟩
  · have finite := (Lattice.finite_of_snap fused.finite).2.1
    rw [infinite] at finite
    cases finite
  · rcases refusal with ⟨unlike, -⟩ | ⟨-, -, rfl⟩
    · obtain ⟨origin, latticeEq⟩ := lattice_of_frame sound made
      have alike := BeliefMap.same_shape_moved sound.usable origin
      change Lattice.sameShape { mapper.lattice with origin } mapper.lattice = true at alike
      rw [← latticeEq] at alike
      exact absurd (alike.symm.trans unlike) (by decide)
    · exact integrate_refused persistent refused

theorem published_of_persistent (sound : mapper.Sound)
    (persistent : mapper.settings.singleFrame = false) {after : Mapper} {publication : Publication}
    (ran : mapper.process sweep = (after, .ok publication)) :
    publication.snapshot.lattice.origin.isFinite = true := by
  have kept := sound_call sound (.process sweep)
  rw [call, ran] at kept
  have shown : publication.snapshot = after.snapshot := by
    rw [process] at ran
    split at ran
    · cases ran
    · rw [integrate] at ran
      simp only [persistent, Bool.false_eq_true, if_false] at ran
      split at ran
      · cases ran
      · cases ran
        rfl
  rw [shown]
  exact kept.finite

theorem published_of_single (sound : mapper.Sound) (single : mapper.settings.singleFrame = true)
    {placement : Placement} (placed : sweep.placement = some placement)
    (posed : placement.isFinite = true) {after : Mapper} {publication : Publication}
    (ran : mapper.process sweep = (after, .ok publication)) :
    publication.snapshot.lattice.origin = mapper.wantedCorner placement.center.ground := by
  obtain ⟨frame, made, latticeEq, -⟩ := mapper.framing.frame_ok sound.usable placed posed
  have corner : mapper.framing.corner placement.center.ground =
      mapper.wantedCorner placement.center.ground := by
    rw [Framing.corner]
    simp only [framing, single, if_true]
    rfl
  rw [process, show mapper.frame sweep = .ok frame from made] at ran
  simp only [integrate_single single] at ran
  cases ran
  change frame.grid.lattice.origin = _
  rw [latticeEq, corner]

end Published

theorem wanted_corner_finite {mapper : Mapper} (usable : mapper.lattice.Usable) {place : Point}
    (finite : place.isFinite = true)
    (columns : number mapper.lattice.width.toFloat32 * number mapper.lattice.resolution ≤ 2 ^ 127)
    (rows : number mapper.lattice.height.toFloat32 * number mapper.lattice.resolution ≤ 2 ^ 127)
    (near : |number place.x| ≤ 2 ^ 127 ∧ |number place.y| ≤ 2 ^ 127) :
    (mapper.wantedCorner place).isFinite = true := by
  obtain ⟨xFinite, yFinite⟩ := (Lattice.finite_iff _).mp finite
  exact (Lattice.finite_iff _).mpr
    ⟨Lattice.axis_wanted_finite usable.finite usable.positive xFinite columns near.1,
      Lattice.axis_wanted_finite usable.finite usable.positive yFinite rows near.2⟩

/-- A published map lies at a finite corner exactly when it persists or the window around the
place is finite; and so the window is when neither it nor the place is of half the greatest size.
A frame whose corner is not finite is refused by a map that persists, and published where frames
stand alone. -/
theorem published_origin_finite_iff {mapper : Mapper} (reachable : mapper.Reachable)
    (sweep : Sweep) :
    (∀ after publication, mapper.process sweep = (after, .ok publication) →
      ∃ placement, sweep.placement = some placement ∧
        (publication.snapshot.lattice.origin.isFinite = true ↔
          mapper.settings.singleFrame = false ∨
            (mapper.wantedCorner placement.center.ground).isFinite = true) ∧
        (number mapper.lattice.width.toFloat32 * number mapper.lattice.resolution ≤ 2 ^ 127 →
          number mapper.lattice.height.toFloat32 * number mapper.lattice.resolution ≤ 2 ^ 127 →
          |number placement.center.ground.x| ≤ 2 ^ 127 ∧
            |number placement.center.ground.y| ≤ 2 ^ 127 →
          publication.snapshot.lattice.origin.isFinite = true)) ∧
    ∀ frame, mapper.frame sweep = .ok frame → frame.grid.lattice.origin.isFinite = false →
      (mapper.process sweep).2 =
        if mapper.settings.singleFrame then .ok (alone frame)
        else .error (.geometry (.originNotFinite frame.grid.lattice.origin)) := by
  have sound := sound_of_reachable reachable
  constructor
  · intro after publication ran
    obtain ⟨placement, placed, posed⟩ := placed_of_process ran
    have shown : publication.snapshot.lattice.origin.isFinite = true ↔
        mapper.settings.singleFrame = false ∨
          (mapper.wantedCorner placement.center.ground).isFinite = true := by
      cases single : mapper.settings.singleFrame with
      | false => exact iff_of_true (published_of_persistent sound single ran) (.inl rfl)
      | true =>
          rw [published_of_single sound single placed posed ran]
          simp
    refine ⟨placement, placed, shown, ?_⟩
    intro columns rows near
    have center := Pose.ground_finite (Placement.center_finite posed)
    exact shown.mpr (.inr (wanted_corner_finite sound.usable center columns rows near))
  · intro frame made infinite
    cases single : mapper.settings.singleFrame with
    | false => exact congrArg Prod.snd (process_refuses sound single made infinite)
    | true =>
        rw [process, made]
        exact congrArg Prod.snd (integrate_single single frame)

/-- Cells of half the greatest size: two of them are infinitely wide. -/
def vast (single : Bool) : Mapper :=
  { settings :=
      { Settings.standard with
        mapLength := 1, mapResolution := Float32.ofBits 0x7f000000, mapWidth := some 2
        mapHeight := some 1, singleFrame := single }
    beliefs :=
      ⟨.standard,
        ⟨⟨2, 1, Float32.ofBits 0x7f000000, .zero⟩, Array.replicate 2 .unknown, rfl⟩⟩
    platformHeight := 0 }

theorem vast_of_settings (single : Bool) : ofSettings (vast single).settings = .ok (vast single) := by
  cases single <;> decide +kernel

theorem published_origin_finite_vast :
    ofSettings (vast false).settings = .ok (vast false) ∧
      ∃ frame, (vast false).frame (sweepAt 0 0) = .ok frame ∧
        frame.grid.lattice.origin.isFinite = false ∧
        ((vast false).process (sweepAt 0 0)).2 =
          .error (.geometry (.originNotFinite frame.grid.lattice.origin)) := by
  have reachable : (vast false).Reachable := ⟨_, vast false, [], vast_of_settings false, rfl⟩
  obtain ⟨-, refused⟩ := published_origin_finite_iff reachable (sweepAt 0 0)
  let frame : Frame :=
    ⟨⟨{ (vast false).lattice with origin := (vast false).frameCorner .zero },
      Array.replicate 2 .unknown, rfl⟩, .origin, 0, 0, {}⟩
  have made : (vast false).frame (sweepAt 0 0) = .ok frame := by decide +kernel
  have infinite : frame.grid.lattice.origin.isFinite = false := by decide +kernel
  exact ⟨vast_of_settings false, frame, made, infinite, refused frame made infinite⟩

/-- A window that overflows, published where frames stand alone. -/
theorem infinite_window_published :
    ofSettings (vast true).settings = .ok (vast true) ∧
      ∃ publication, ((vast true).process (sweepAt 0 0)).2 = .ok publication ∧
        publication.snapshot.lattice.origin = ⟨-1 / 0, Float32.ofBits 0xfe800000⟩ ∧
        publication.snapshot.lattice.origin.isFinite = false := by
  refine ⟨vast_of_settings true,
    ⟨⟨⟨2, 1, Float32.ofBits 0x7f000000, ⟨-1 / 0, Float32.ofBits 0xfe800000⟩⟩, 0, #[-1, -1]⟩,
      ⟨0, 0, {}, none⟩⟩, ?_, rfl, ?_⟩
  all_goals decide +kernel

end Mapper

end EvidenceGrid

import EvidenceGrid.Frame
import EvidenceGrid.Proofs.Lattice.Snap

/-!
Which sweeps give a frame, and where the frame lies. Casting rays writes cells
and moves no corner, so a frame lies where its framing put it. The cells that the
rays reach are not followed here.
-/

set_option autoImplicit false

namespace EvidenceGrid

namespace Grid

theorem lattice_note (grid : Grid Occupancy) (tally : RayTally) (cell : Cell) (seen : Occupancy) :
    (grid.note tally cell seen).1.lattice = grid.lattice := by
  rw [note]
  split_ifs with inside
  · simp only
    split_ifs <;> rfl
  · rfl

theorem lattice_foldl {α : Type} {step : Grid Occupancy × RayTally → α → Grid Occupancy × RayTally}
    (kept : ∀ state item, (step state item).1.lattice = state.1.lattice) (items : List α)
    (state : Grid Occupancy × RayTally) :
    (items.foldl step state).1.lattice = state.1.lattice := by
  induction items generalizing state with
  | nil => rfl
  | cons item rest ih => rw [List.foldl_cons, ih, kept]

theorem lattice_cast_ray (grid : Grid Occupancy) (start goal : Cell) (obstacle : Bool) :
    (grid.castRay start goal obstacle).1.lattice = grid.lattice := by
  apply lattice_foldl
  intro state cell
  exact lattice_note _ _ _ _

theorem lattice_cast_frame (grid : Grid Occupancy) (sensor : Point) (echoes : List Echo) :
    (grid.castFrame sensor echoes).1.lattice = grid.lattice := by
  rw [castFrame]
  split
  · rfl
  · apply lattice_foldl
    intro state echo
    simp only
    split
    · rfl
    · exact lattice_cast_ray _ _ _ _

theorem of_echoes_ok {lattice : Lattice} (usable : lattice.Usable) (sensor : Point)
    (echoes : List Echo) :
    ∃ grid rays, ofEchoes lattice sensor echoes = .ok (grid, rays) ∧ grid.lattice = lattice := by
  have passed := (Lattice.validate_ok_iff lattice).mpr usable
  let fresh : Grid Occupancy :=
    ⟨lattice, Array.replicate lattice.area .unknown, Array.size_replicate⟩
  refine ⟨(fresh.castFrame sensor echoes).1, (fresh.castFrame sensor echoes).2, ?_,
    lattice_cast_frame _ _ _⟩
  simp only [ofEchoes, filled_eq, passed]
  rfl

end Grid

namespace Framing

theorem frame_ok (framing : Framing) (usable : framing.anchor.Usable) {sweep : Sweep}
    {placement : Placement} (placed : sweep.placement = some placement)
    (finite : placement.isFinite = true) :
    ∃ frame, framing.frame sweep = .ok frame ∧
      frame.grid.lattice =
        { framing.anchor with origin := framing.corner placement.center.ground } ∧
      frame.platform = placement.platform := by
  rw [Framing.frame, placed]
  simp only [finite, Bool.not_true, Bool.false_eq_true, if_false]
  set lattice : Lattice := { framing.anchor with origin := framing.corner placement.center.ground }
  obtain ⟨grid, rays, cast, kept⟩ := Grid.of_echoes_ok (Lattice.usable_moved usable
    (framing.corner placement.center.ground)) placement.sensor.ground
    (Echo.ofClouds (framing.cropped placement.platform.position.z sweep.raw)
      (framing.matched (framing.cropped placement.platform.position.z sweep.obstacle)
        (framing.cropped placement.platform.position.z sweep.raw)))
  rw [cast]
  exact ⟨_, rfl, kept, rfl⟩

theorem geometry_of_frame {framing : Framing} (usable : framing.anchor.Usable) {sweep : Sweep}
    {fault : Fault} (failed : framing.frame sweep = .error fault) :
    ∃ cause, fault = .geometry cause := by
  cases placed : sweep.placement with
  | none =>
      rw [Framing.frame, placed] at failed
      cases failed
      exact ⟨_, rfl⟩
  | some placement =>
      cases finite : placement.isFinite with
      | false =>
          rw [Framing.frame, placed] at failed
          simp only [finite, Bool.not_false, if_true] at failed
          cases failed
          exact ⟨_, rfl⟩
      | true =>
          obtain ⟨frame, made, -⟩ := framing.frame_ok usable placed finite
          rw [made] at failed
          cases failed

/-- How a frame was made: where its window lies, and out of which points. -/
structure Made (framing : Framing) (sweep : Sweep) (placement : Placement) (frame : Frame) :
    Prop where
  placed : sweep.placement = some placement
  finite : placement.isFinite = true
  cast : Grid.ofEchoes { framing.anchor with origin := framing.corner placement.center.ground }
    placement.sensor.ground
    (Echo.ofClouds (framing.cropped placement.platform.position.z sweep.raw)
      (framing.matched (framing.cropped placement.platform.position.z sweep.obstacle)
        (framing.cropped placement.platform.position.z sweep.raw))) = .ok (frame.grid, frame.rays)
  platform : frame.platform = placement.platform
  obstaclePoints : frame.obstaclePoints =
    (framing.matched (framing.cropped placement.platform.position.z sweep.obstacle)
      (framing.cropped placement.platform.position.z sweep.raw)).length
  rawPoints : frame.rawPoints = (framing.cropped placement.platform.position.z sweep.raw).length

theorem frame_ok_iff {framing : Framing} {sweep : Sweep} {frame : Frame} :
    framing.frame sweep = .ok frame ↔ ∃ placement, Made framing sweep placement frame := by
  constructor
  · intro made
    rw [Framing.frame] at made
    split at made
    · cases made
    · next placement placed =>
        split_ifs at made with infinite
        simp only at made
        generalize cast : Grid.ofEchoes _ _ _ = result at made
        cases result with
        | error fault => cases made
        | ok result =>
            cases made
            exact ⟨placement, placed, by simpa using infinite, cast, rfl, rfl, rfl⟩
  · rintro ⟨placement, made⟩
    rw [Framing.frame, made.placed]
    simp only [made.finite, Bool.not_true, Bool.false_eq_true, if_false]
    rw [made.cast, ← made.obstaclePoints, ← made.rawPoints, ← made.platform]
    rfl

theorem placed_of_frame {framing : Framing} {sweep : Sweep} {frame : Frame}
    (made : framing.frame sweep = .ok frame) :
    ∃ placement, sweep.placement = some placement ∧ placement.isFinite = true := by
  obtain ⟨placement, parts⟩ := frame_ok_iff.mp made
  exact ⟨placement, parts.placed, parts.finite⟩

end Framing

end EvidenceGrid

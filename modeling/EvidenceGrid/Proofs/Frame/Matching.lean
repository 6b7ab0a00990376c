import EvidenceGrid.Proofs.Cloud.Voxel
import EvidenceGrid.Proofs.Frame
import EvidenceGrid.Proofs.Frame.InvalidReturn

/-!
What matching of obstacle points with the raw cloud leaves. It is a filter, so what is left is in
order and as often there as before. Points that are near each other are always matched, as long
as no cube is at an end of the words. It may leave points that are not that near as well, and
where it would leave nothing, a frame uses all points instead.
-/

set_option autoImplicit false

namespace EvidenceGrid

open Binary32

section Matching

variable {cloud others : Cloud} {tolerance : Float32} {point : Point3}

theorem Cloud.matching_sublist (cloud others : Cloud) (tolerance : Float32) :
    (cloud.matching others tolerance).Sublist cloud := by
  rw [matching_eq_filter]
  exact List.filter_sublist

theorem Cloud.count_matching (toleranceFinite : tolerance.isFinite = true)
    (positive : 0 < number tolerance)
    (inner : ∀ point ∈ cloud ++ others, ¬(Voxel.of tolerance point).AtEnd)
    (member : point ∈ cloud) {other : Point3} (otherMember : other ∈ others)
    (near : point.Near tolerance other) :
    (cloud.matching others tolerance).count point = cloud.count point := by
  rw [matching_eq_filter]
  apply List.count_filter
  rw [List.any_eq_true]
  refine ⟨other, otherMember, ?_⟩
  rw [touches, List.contains_iff_mem]
  exact Voxel.of_near_mem near toleranceFinite positive
    (inner point (List.mem_append_left _ member))
    (inner other (List.mem_append_right _ otherMember))

end Matching

namespace Framing

variable {framing : Framing} {obstacle raw : Cloud}

theorem matched_sublist : (framing.matched obstacle raw).Sublist obstacle := by
  simp only [matched]
  split_ifs
  · exact List.Sublist.refl obstacle
  · exact Cloud.matching_sublist obstacle raw _
  · exact List.Sublist.refl obstacle

theorem matched_eq_nil (empty : framing.matched obstacle raw = []) : obstacle = [] := by
  simp only [matched] at empty
  split_ifs at empty with on none
  · exact empty
  · exact absurd (List.isEmpty_iff.mpr empty) none
  · exact empty

/-- Matching drops no point that has one of the raw cloud near it, and takes no frame's obstacles
away altogether. The numbers are compared exactly, so points that are not numbers are near none.
A frame casts its rays to the raw points that the crop leaves, and to obstacle points out of
those that it leaves, which are none only if it leaves none. -/
theorem matching_keeps_near :
    (∀ (cloud others : Cloud) (tolerance : Float32), tolerance.isFinite = true → 0 < tolerance →
      (∀ point ∈ cloud ++ others, ¬(Voxel.of tolerance point).AtEnd) →
      (cloud.matching others tolerance).Sublist cloud ∧
        ∀ point ∈ cloud, (∃ other ∈ others, point.Near tolerance other) →
          (cloud.matching others tolerance).count point = cloud.count point) ∧
    ∀ (framing : Framing) (sweep : Sweep) (frame : Frame), framing.frame sweep = .ok frame →
      ∃ placement, sweep.placement = some placement ∧
        let height := placement.platform.position.z
        let obstacles := framing.matched (framing.cropped height sweep.obstacle)
          (framing.cropped height sweep.raw)
        (∀ cloud, framing.cropped height cloud = cloud.filter (framing.keeps height)) ∧
        Grid.ofEchoes { framing.anchor with origin := framing.corner placement.center.ground }
          placement.sensor.ground (Echo.ofClouds (framing.cropped height sweep.raw) obstacles) =
            .ok (frame.grid, frame.rays) ∧
        obstacles.Sublist (framing.cropped height sweep.obstacle) ∧
        (obstacles = [] → framing.cropped height sweep.obstacle = []) := by
  constructor
  · intro cloud others tolerance finite positive inner
    rw [lt_iff rfl finite, number_zero] at positive
    refine ⟨Cloud.matching_sublist _ _ _, ?_⟩
    rintro point member ⟨other, otherMember, near⟩
    exact Cloud.count_matching finite positive inner member otherMember near
  · intro framing sweep frame made
    obtain ⟨placement, parts⟩ := frame_ok_iff.mp made
    exact ⟨placement, parts.placed, cropped_eq_filter, parts.cast, matched_sublist,
      matched_eq_nil⟩

/-- Two returns on the two sides of a cube's face, and a cell whose obstacle is not matched. -/
theorem matching_keeps_near_across_zero :
    let point : Point3 := ⟨0.5, 1, 0⟩
    let other : Point3 := ⟨-0.5, 0, 0⟩
    let cloud : Cloud := [point, ⟨50, 0, 0⟩, point]
    (1 : Float32).isFinite = true ∧ (0 : Float32) < 1 ∧
      (∀ point ∈ cloud ++ [other], ¬(Voxel.of 1 point).AtEnd) ∧ point.Near 1 other ∧
      Voxel.of 1 point ≠ Voxel.of 1 other ∧
      (cloud.matching [other] 1).count point = cloud.count point ∧
      ∃ frame, matchingCell.frame axisSweep = .ok frame ∧ ∃ placement,
        axisSweep.placement = some placement ∧
        matchingCell.matched
          (matchingCell.cropped placement.platform.position.z axisSweep.obstacle)
          (matchingCell.cropped placement.platform.position.z axisSweep.raw) ≠ [] := by
  intro point other cloud
  have finite : (1 : Float32).isFinite = true := rfl
  have positive : (0 : Float32) < 1 := by decide +kernel
  have inner : ∀ point ∈ cloud ++ [other], ¬(Voxel.of 1 point).AtEnd := by
    simp only [Voxel.at_end_iff]
    decide +kernel
  have half : (0.5 : Float32).isFinite = true := rfl
  have zero : (0 : Float32).isFinite = true := rfl
  obtain ⟨opposite, oppositeNumber⟩ := neg_value half
  have near : point.Near 1 other := by
    refine ⟨⟨half, opposite, ?_⟩, ⟨finite, zero, ?_⟩, ⟨zero, zero, ?_⟩⟩
    · rw [oppositeNumber, number_half, number_one]
      norm_num
    · rw [number_one, number_zero]
      norm_num
    · rw [number_one, number_zero]
      norm_num
  obtain ⟨matching, frames⟩ := matching_keeps_near
  refine ⟨finite, positive, inner, near, by decide +kernel,
    (matching cloud [other] 1 finite positive inner).2 point (by decide +kernel)
      ⟨other, List.mem_singleton_self other, near⟩, ?_⟩
  have usable := (Lattice.validate_ok_iff matchingCell.anchor).mp (by decide +kernel)
  obtain ⟨frame, made, -⟩ := matchingCell.frame_ok usable
    (show axisSweep.placement = some _ from rfl) (by decide +kernel)
  obtain ⟨placement, placed, -, -, -, kept⟩ := frames matchingCell axisSweep frame made
  refine ⟨frame, made, placement, placed, mt kept ?_⟩
  cases placed
  decide +kernel

end Framing

end EvidenceGrid

import EvidenceGrid.Proofs.Binary32.Monotone
import EvidenceGrid.Proofs.Binary32.Quotient
import EvidenceGrid.Proofs.Cloud
import EvidenceGrid.Proofs.Grid.Words

/-!
Cubes of space. A coordinate is divided by the side of the cubes, and what is rounded down to is
held to signed words, so a cube that is at no end of them has the whole parts of its quotients,
and its neighbours are named by words. Points that are no further apart on each axis than the side
are then in one cube or in cubes that touch, whatever the divisions round off.
-/

set_option autoImplicit false

namespace EvidenceGrid

open Binary32

/-! ## Words -/

section Word

variable {value : Float32}

theorem to_signed_floor (finite : value.isFinite = true) :
    toSigned (floor value) = max (-2 ^ 31) (min ⌊number value⌋ (2 ^ 31 - 1)) := by
  obtain ⟨floorFinite, floorNumber⟩ := floor_value finite
  rw [to_signed_value floorFinite, floorNumber]
  set whole := ⌊number value⌋
  have down : ⌊-(whole : ℚ)⌋₊ = (-whole).toNat := by
    rw [← Int.cast_neg, ← Int.floor_toNat, Int.floor_intCast]
  have up : ⌊(whole : ℚ)⌋₊ = whole.toNat := by rw [← Int.floor_toNat, Int.floor_intCast]
  have negative : (whole : ℚ) < 0 ↔ whole < 0 := by exact_mod_cast Iff.rfl
  simp only [negative, down, up]
  split_ifs <;> omega

theorem to_uint32_infinite (infinite : value.toModel.unpack = .infinity .positive) :
    value.toUInt32.toNat = 2 ^ 32 - 1 := by
  change (UInt32.ofNatClamp (value.toModel.unpack.toInt 0 _).toNat).toNat = _
  rw [infinite]
  rfl

theorem to_signed_floor_infinite {sign : Float.Model.UnpackedFloat.Sign}
    (infinite : value.toModel.unpack = .infinity sign) :
    toSigned (floor value) = -2 ^ 31 ∨ toSigned (floor value) = 2 ^ 31 - 1 := by
  have some := not_nan_of_infinite infinite
  have large : ¬value.abs < wholeFrom := by
    intro small
    have finite := finite_of_abs_lt small
    change value.toModel.unpack.isFinite = true at finite
    rw [infinite] at finite
    cases finite
  have below : value < 0 ↔ extended value < 0 := by rw [lt_iff_extended some rfl, extended_zero]
  rw [floor, if_neg large, toSigned]
  rw [extended_of_infinite infinite] at below
  cases sign with
  | negative =>
      left
      rw [if_pos (below.mpr EReal.bot_lt_zero), to_uint32_infinite (neg_infinite infinite)]
      norm_num
  | positive =>
      right
      rw [if_neg (mt below.mp (not_lt.mpr le_top)), to_uint32_infinite infinite]
      norm_num

variable {coordinate side : Float32}

theorem place_value (finite : coordinate.isFinite = true) (sideFinite : side.isFinite = true)
    (positive : 0 < number side)
    (inner : toSigned (floor (coordinate / side)) ≠ -2 ^ 31 ∧
      toSigned (floor (coordinate / side)) ≠ 2 ^ 31 - 1) :
    toSigned (floor (coordinate / side)) = ⌊rounded (number coordinate / number side)⌋ := by
  have some : (coordinate / side).isNaN = false :=
    not_nan_pack (div_rounds finite sideFinite positive.ne')
  have quotientFinite : (coordinate / side).isFinite = true := by
    rcases finite_or_infinite some with quotientFinite | ⟨sign, infinite⟩
    · exact quotientFinite
    · exact absurd (to_signed_floor_infinite infinite) (not_or.mpr inner)
  rw [to_signed_floor quotientFinite] at inner ⊢
  rw [← (div_computes finite sideFinite positive.ne').number_eq quotientFinite]
  omega

end Word

/-! ## Cubes -/

structure Beside (tolerance left right : Float32) : Prop where
  leftFinite : left.isFinite = true
  rightFinite : right.isFinite = true
  close : |number left - number right| ≤ number tolerance

/-- Points that are no further apart than a tolerance on each axis. -/
structure Point3.Near (tolerance : Float32) (point other : Point3) : Prop where
  x : Beside tolerance point.x other.x
  y : Beside tolerance point.y other.y
  z : Beside tolerance point.z other.z

namespace Voxel

def coordinates (voxel : Voxel) : List Int32 := [voxel.x, voxel.y, voxel.z]

def AtEnd (voxel : Voxel) : Prop :=
  ∃ coordinate ∈ voxel.coordinates, coordinate = Int32.minValue ∨ coordinate = Int32.maxValue

/-- The coordinates of all neighbours are words as they are, with nothing counted on at the
other end. -/
def Fits (voxel : Voxel) : Prop :=
  ∀ coordinate ∈ voxel.coordinates, ∀ step ∈ steps, IsWord (coordinate.toInt + step.toInt)

theorem place_to_int (side coordinate : Float32) :
    (place side coordinate).toInt = toSigned (floor (coordinate / side)) := by
  obtain ⟨low, high⟩ := is_word_to_signed (floor (coordinate / side))
  exact Int32.toInt_ofInt_of_le low high

theorem at_end_iff (voxel : Voxel) : voxel.AtEnd ↔
    (voxel.x = Int32.minValue ∨ voxel.x = Int32.maxValue) ∨
      (voxel.y = Int32.minValue ∨ voxel.y = Int32.maxValue) ∨
      (voxel.z = Int32.minValue ∨ voxel.z = Int32.maxValue) := by
  simp [AtEnd, coordinates]

theorem at_end_word_iff (coordinate : Int32) :
    coordinate = Int32.minValue ∨ coordinate = Int32.maxValue ↔
      coordinate.toInt = -2 ^ 31 ∨ coordinate.toInt = 2 ^ 31 - 1 := by
  rw [← Int32.toInt_inj, ← Int32.toInt_inj, Int32.toInt_minValue, Int32.toInt_maxValue]

/-- The neighbours of a cube can be named by words exactly when it is at no end of them. -/
theorem fits_iff (voxel : Voxel) : voxel.Fits ↔ ¬voxel.AtEnd := by
  have word (coordinate : Int32) : (∀ step ∈ steps, IsWord (coordinate.toInt + step.toInt)) ↔
      ¬(coordinate = Int32.minValue ∨ coordinate = Int32.maxValue) := by
    have low := coordinate.le_toInt
    have high := coordinate.toInt_lt
    have back : (-1 : Int32).toInt = -1 := rfl
    have none : (0 : Int32).toInt = 0 := rfl
    have on : (1 : Int32).toInt = 1 := rfl
    rw [at_end_word_iff]
    simp only [steps, List.forall_mem_cons, List.not_mem_nil, IsWord, back, none, on]
    constructor
    · rintro ⟨below, -, above, -⟩
      omega
    · intro inner
      exact ⟨by omega, by omega, by omega, fun _ absurd => absurd.elim⟩
  simp only [Fits, AtEnd, word, not_exists, not_and]

theorem step_of_close {place other : Int32} (close : |place.toInt - other.toInt| ≤ 1) :
    ∃ step ∈ steps, place + step = other := by
  have step : place + Int32.ofInt (other.toInt - place.toInt) = other := by
    conv_lhs => rw [← Int32.ofInt_toInt place, ← Int32.ofInt_add]
    rw [Int32.ofInt_toInt, add_sub_cancel, Int32.ofInt_toInt]
  refine ⟨_, ?_, step⟩
  rw [abs_le] at close
  have unit : other.toInt - place.toInt = -1 ∨ other.toInt - place.toInt = 0 ∨
      other.toInt - place.toInt = 1 := by omega
  rcases unit with back | none | on
  · rw [back]
    decide
  · rw [none]
    decide
  · rw [on]
    decide

theorem mem_neighborhood_of_close {voxel near : Voxel} (x : |voxel.x.toInt - near.x.toInt| ≤ 1)
    (y : |voxel.y.toInt - near.y.toInt| ≤ 1) (z : |voxel.z.toInt - near.z.toInt| ≤ 1) :
    near ∈ voxel.neighborhood := by
  obtain ⟨dx, column, sameX⟩ := step_of_close x
  obtain ⟨dy, row, sameY⟩ := step_of_close y
  obtain ⟨dz, layer, sameZ⟩ := step_of_close z
  simp only [neighborhood, List.mem_flatMap, List.mem_map]
  exact ⟨dx, column, dy, row, dz, layer, by rw [sameX, sameY, sameZ]⟩

section Near

variable {side : Float32} {point other : Point3}

theorem place_close {left right : Float32} (beside : Beside side left right)
    (sideFinite : side.isFinite = true) (positive : 0 < number side)
    (leftInner : ¬(place side left = Int32.minValue ∨ place side left = Int32.maxValue))
    (rightInner : ¬(place side right = Int32.minValue ∨ place side right = Int32.maxValue)) :
    |(place side left).toInt - (place side right).toInt| ≤ 1 := by
  rw [at_end_word_iff, place_to_int, not_or] at leftInner rightInner
  rw [place_to_int, place_to_int, place_value beside.leftFinite sideFinite positive leftInner,
    place_value beside.rightFinite sideFinite positive rightInner]
  exact floor_quotient_near (on_grid_number left) (on_grid_number right) (on_grid_number side)
    positive beside.close

theorem of_near_mem (near : point.Near side other) (sideFinite : side.isFinite = true)
    (positive : 0 < number side) (inner : ¬(of side point).AtEnd)
    (otherInner : ¬(of side other).AtEnd) : of side other ∈ (of side point).neighborhood := by
  rw [at_end_iff] at inner otherInner
  obtain ⟨x, rest⟩ := not_or.mp inner
  obtain ⟨y, z⟩ := not_or.mp rest
  obtain ⟨otherX, otherRest⟩ := not_or.mp otherInner
  obtain ⟨otherY, otherZ⟩ := not_or.mp otherRest
  exact mem_neighborhood_of_close (place_close near.x sideFinite positive x otherX)
    (place_close near.y sideFinite positive y otherY)
    (place_close near.z sideFinite positive z otherZ)

end Near

end Voxel

end EvidenceGrid

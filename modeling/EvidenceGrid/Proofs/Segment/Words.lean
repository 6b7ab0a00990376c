import EvidenceGrid.Proofs.Segment

/-!
The numbers of a walk fit signed machine words. On the closed form of the walk the error term
stays within one and a half times the longer extent, because each axis is at most half a step
away from the ideal line. With ends on a map of at most `2 ^ 28` cells that leaves room for
doubling it and for both corrections.
-/

set_option autoImplicit false

namespace EvidenceGrid

def IsWord (value : Int) : Prop := -2 ^ 31 ≤ value ∧ value < 2 ^ 31

/-- Every number that is computed when a tracer starts or moves on is a word. -/
structure Tracer.Fits (tracer : Tracer) : Prop where
  cell : IsWord tracer.cell.x ∧ IsWord tracer.cell.y
  distance : IsWord (tracer.goal.x - tracer.cell.x) ∧ IsWord (tracer.goal.y - tracer.cell.y)
  extent : IsWord tracer.extent.x ∧ IsWord tracer.extent.y
  error : IsWord tracer.error
  doubled : IsWord (2 * tracer.error)
  alongX : IsWord (tracer.error + tracer.extent.y) ∧ IsWord (tracer.cell.x + tracer.step.x)
  alongY : IsWord (tracer.error + tracer.extent.x) ∧ IsWord (tracer.cell.y + tracer.step.y)
  alongBoth : IsWord (tracer.error + tracer.extent.y + tracer.extent.x)

namespace Segment

variable {start goal : Offset} {count : Nat}

/-- The error term weighs the extents by steps that are at most half a step off. -/
theorem error_bounds {longest width height taken climbed : Nat} (some : 0 < longest)
    (columns : width ≤ longest) (rows : height ≤ longest)
    (across : steps longest width count = taken) (up : steps longest height count = climbed) :
    2 * |((climbed + 1) * width - (taken + 1) * height : ℤ)| ≤ 3 * longest := by
  obtain ⟨takenLow, takenHigh⟩ := (steps_eq_iff some _).mp across
  obtain ⟨climbedLow, climbedHigh⟩ := (steps_eq_iff some _).mp up
  have positive : (0 : ℤ) < longest := by exact_mod_cast some
  -- The bounds on the steps of one axis, weighed by the extent on the other.
  have takenLess := Nat.mul_le_mul_right height takenLow
  have takenMore := Nat.mul_le_mul_right height takenHigh.le
  have climbedLess := Nat.mul_le_mul_right width climbedLow
  have climbedMore := Nat.mul_le_mul_right width climbedHigh.le
  zify at takenLess takenMore climbedLess climbedMore columns rows
  have above : (longest : ℤ) * (2 * ((climbed + 1) * width - (taken + 1) * height)) ≤
      longest * (3 * width - height) := by
    linarith
  have below : (longest : ℤ) * (width - 3 * height) ≤
      longest * (2 * ((climbed + 1) * width - (taken + 1) * height)) := by
    linarith
  have upper := le_of_mul_le_mul_left above positive
  have lower := le_of_mul_le_mul_left below positive
  rcases abs_cases ((climbed + 1) * width - (taken + 1) * height : ℤ) with ⟨same, -⟩ | ⟨same, -⟩
  · rw [same]
    linarith
  · rw [same]
    linarith

theorem abs_error_le (start goal : Offset) (count : Nat) :
    2 * |(walk start goal count).error| ≤ 3 * longest start goal := by
  rcases Nat.eq_zero_or_pos (longest start goal) with none | some
  · have columns : (goal.x - start.x).natAbs ≤ longest start goal := le_max_left _ _
    have rows : (goal.y - start.y).natAbs ≤ longest start goal := le_max_right _ _
    have noColumns : (goal.x - start.x).natAbs = 0 := by omega
    have noRows : (goal.y - start.y).natAbs = 0 := by omega
    simp [walk, none, noColumns, noRows]
  · exact error_bounds some (le_max_left _ _) (le_max_right _ _) rfl rfl

theorem place_between (within : count ≤ longest start goal) :
    (min start.x goal.x ≤ (place start goal count).x ∧
        (place start goal count).x ≤ max start.x goal.x) ∧
      (min start.y goal.y ≤ (place start goal count).y ∧
        (place start goal count).y ≤ max start.y goal.y) := by
  apply between_of_mem_cells
  rw [cells_eq]
  exact List.mem_map_of_mem (List.mem_range.mpr (Nat.lt_succ_of_le within))

theorem take_last (asked : Nat) (within : count ≤ longest start goal) :
    ∃ reached ≤ longest start goal, ∃ finished,
      ((walk start goal count).take asked).2 = { walk start goal reached with finished } := by
  induction asked generalizing count with
  | zero => exact ⟨count, within, _, rfl⟩
  | succ asked ih =>
      rcases within.lt_or_eq with more | rfl
      · rw [Tracer.take, next_walk more]
        exact ih more
      · rw [Tracer.take, next_walk_longest]
        refine ⟨_, le_rfl, true, ?_⟩
        simp only [take_finished]

/-- A place where a map can have cells. -/
def Near (place : Offset) : Prop :=
  (0 ≤ place.x ∧ place.x < 2 ^ 28) ∧ (0 ≤ place.y ∧ place.y < 2 ^ 28)

theorem fits_of_take (startNear : Near start) (goalNear : Near goal) (asked : Nat) :
    ((Tracer.along start goal).take asked).2.Fits := by
  obtain ⟨reached, within, finished, last⟩ := take_last asked (Nat.zero_le (longest start goal))
  rw [walk_zero] at last
  rw [last]
  obtain ⟨⟨startLeft, startRight⟩, startBottom, startTop⟩ := startNear
  obtain ⟨⟨goalLeft, goalRight⟩, goalBottom, goalTop⟩ := goalNear
  obtain ⟨⟨left, right⟩, bottom, top⟩ := place_between within
  have long : longest start goal =
      max (goal.x - start.x).natAbs (goal.y - start.y).natAbs := rfl
  have extentX : (walk start goal reached).extent.x = (goal.x - start.x).natAbs := rfl
  have extentY : (walk start goal reached).extent.y = -((goal.y - start.y).natAbs : ℤ) := rfl
  have error : -2 ^ 29 < (walk start goal reached).error ∧
      (walk start goal reached).error < 2 ^ 29 := by
    have bounded := abs_error_le start goal reached
    rw [← abs_lt]
    omega
  have unit (ahead : Prop) [Decidable ahead] : -1 ≤ (if ahead then 1 else -1 : ℤ) ∧
      (if ahead then 1 else -1 : ℤ) ≤ 1 := by
    split_ifs <;> omega
  have stepX : -1 ≤ (walk start goal reached).step.x ∧ (walk start goal reached).step.x ≤ 1 :=
    unit (start.x < goal.x)
  have stepY : -1 ≤ (walk start goal reached).step.y ∧ (walk start goal reached).step.y ≤ 1 :=
    unit (start.y < goal.y)
  have cell : (walk start goal reached).cell = place start goal reached := rfl
  have aim : (walk start goal reached).goal = goal := rfl
  constructor <;> simp only [IsWord, cell, aim, extentX, extentY] <;> omega

end Segment

end EvidenceGrid

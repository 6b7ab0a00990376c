import Mathlib
import EvidenceGrid.Segment

/-!
The walk of a tracer in closed form. On the axis of the longer extent every cell
is one step on; on the other axis the steps taken are the ideal ones rounded to
the nearest, halves up. The error term is the one that belongs to these counts,
so one lemma about a single advance gives the whole walk: it ends at its goal,
meets the goal nowhere before, and stays in the box between its ends. That the
numbers fit a machine is not said here.
-/

set_option autoImplicit false

namespace EvidenceGrid

namespace Segment

/-- The steps along an axis after so many cells, for an extent on that axis and
the longer one of both. -/
def steps (longest extent count : Nat) : Nat := (2 * count * extent + longest) / (2 * longest)

section Steps

variable {longest extent count : Nat}

theorem steps_eq_iff (some : 0 < longest) (taken : Nat) :
    steps longest extent count = taken ↔
      2 * longest * taken ≤ 2 * count * extent + longest ∧
        2 * count * extent + longest < 2 * longest * taken + 2 * longest := by
  have product : taken * (2 * longest) = 2 * longest * taken := Nat.mul_comm _ _
  rw [steps, Nat.div_eq_iff (by omega), product]
  omega

theorem steps_none (longest extent : Nat) : steps longest extent 0 = 0 := by
  rw [steps, Nat.mul_zero, Nat.zero_mul, Nat.zero_add]
  rcases Nat.eq_zero_or_pos longest with rfl | some
  · rfl
  · exact Nat.div_eq_of_lt (by omega)

theorem steps_all (short : extent ≤ longest) : steps longest extent longest = extent := by
  rcases Nat.eq_zero_or_pos longest with rfl | some
  · rw [Nat.le_zero.mp short]
    rfl
  · rw [steps_eq_iff some]
    constructor <;> nlinarith

theorem steps_longest (some : 0 < longest) : steps longest longest count = count := by
  rw [steps_eq_iff some]
  constructor <;> nlinarith

theorem steps_mono {more : Nat} (later : count ≤ more) :
    steps longest extent count ≤ steps longest extent more := by
  apply Nat.div_le_div_right
  have := Nat.mul_le_mul_right extent later
  rw [Nat.mul_assoc, Nat.mul_assoc]
  omega

theorem steps_le (short : extent ≤ longest) (within : count ≤ longest) :
    steps longest extent count ≤ extent := by
  calc steps longest extent count ≤ steps longest extent longest := steps_mono within
    _ = extent := steps_all short

theorem steps_succ (some : 0 < longest) (short : extent ≤ longest) (count : Nat) :
    steps longest extent (count + 1) = steps longest extent count +
      if longest * (2 * steps longest extent count + 1) ≤ 2 * (count + 1) * extent then 1
      else 0 := by
  obtain ⟨low, high⟩ := (steps_eq_iff some _).mp (rfl : steps longest extent count = _)
  rw [steps_eq_iff some]
  split_ifs with passed
  · constructor <;> nlinarith
  · constructor <;> nlinarith

/-- Half a step is passed on one axis exactly when the error term, which compares the
steps of both axes, says so. -/
theorem passed_iff {other : Nat} (some : 0 < longest) (shorter : other ≤ longest)
    (longer : longest = extent ∨ longest = other) (count : Nat) :
    longest * (2 * steps longest extent count + 1) ≤ 2 * (count + 1) * extent ↔
      2 * ((steps longest extent count + 1) * other) ≤
        2 * ((steps longest other count + 1) * extent) + other := by
  rcases longer with rfl | rfl
  · obtain ⟨-, high⟩ := (steps_eq_iff some _).mp (rfl : steps longest other count = _)
    rw [steps_longest some]
    constructor
    · intro _
      nlinarith
    · intro _
      nlinarith
  · rw [steps_longest some]
    constructor
    · intro passed
      nlinarith
    · intro ahead
      nlinarith

end Steps

section Walk

variable (start goal : Offset)

def longest : Nat := max (goal.x - start.x).natAbs (goal.y - start.y).natAbs

def place (count : Nat) : Offset :=
  ⟨start.x + (if start.x < goal.x then 1 else -1) *
      steps (longest start goal) (goal.x - start.x).natAbs count,
    start.y + (if start.y < goal.y then 1 else -1) *
      steps (longest start goal) (goal.y - start.y).natAbs count⟩

def walk (count : Nat) : Tracer :=
  { Tracer.along start goal with
    cell := place start goal count
    error :=
      (steps (longest start goal) (goal.y - start.y).natAbs count + 1) *
          (goal.x - start.x).natAbs -
        (steps (longest start goal) (goal.x - start.x).natAbs count + 1) *
          (goal.y - start.y).natAbs }

theorem place_zero : place start goal 0 = start := by
  simp [place, steps_none]

theorem walk_zero : walk start goal 0 = Tracer.along start goal := by
  have cell := place_zero start goal
  rw [walk, cell, steps_none, steps_none, Tracer.along]
  simp only [Tracer.mk.injEq, true_and, and_true]
  push_cast
  ring

variable {start goal} {count : Nat}

theorem advance_walk (more : count < longest start goal) :
    (walk start goal count).advance = walk start goal (count + 1) := by
  have some : 0 < longest start goal := by omega
  have columns : (goal.x - start.x).natAbs ≤ longest start goal := le_max_left _ _
  have rows : (goal.y - start.y).natAbs ≤ longest start goal := le_max_right _ _
  have longer : longest start goal = (goal.x - start.x).natAbs ∨
      longest start goal = (goal.y - start.y).natAbs := max_choice _ _
  have nextX := steps_succ some columns count
  have nextY := steps_succ some rows count
  have passedX := passed_iff some rows longer count
  have passedY := passed_iff some columns longer.symm count
  rw [walk, walk, place, place, Tracer.along, Tracer.advance, nextX, nextY]
  set width := (goal.x - start.x).natAbs
  set height := (goal.y - start.y).natAbs
  set long := longest start goal
  set taken := steps long width count
  set climbed := steps long height count
  -- The tests of the tracer are whether half a step is passed, on each axis.
  have alongX : -(height : ℤ) ≤ 2 * ((climbed + 1) * width - (taken + 1) * height) ↔
      long * (2 * taken + 1) ≤ 2 * (count + 1) * width := by
    rw [passedX]
    zify
    constructor <;> intro test <;> linarith
  have alongY : 2 * ((climbed + 1) * width - (taken + 1) * height) ≤ (width : ℤ) ↔
      long * (2 * climbed + 1) ≤ 2 * (count + 1) * height := by
    rw [passedY]
    zify
    constructor <;> intro test <;> linarith
  simp only [alongX, alongY, Tracer.mk.injEq, Offset.mk.injEq, true_and, and_true]
  split_ifs <;> push_cast <;> refine ⟨⟨?_, ?_⟩, ?_⟩ <;> ring

theorem place_longest (start goal : Offset) : place start goal (longest start goal) = goal := by
  obtain ⟨column, row⟩ := goal
  have columns : (column - start.x).natAbs ≤ longest start ⟨column, row⟩ := le_max_left _ _
  have rows : (row - start.y).natAbs ≤ longest start ⟨column, row⟩ := le_max_right _ _
  simp only [place, steps_all columns, steps_all rows, Offset.mk.injEq]
  constructor
  · split_ifs <;> omega
  · split_ifs <;> omega

/-- The goal is not met before the end, because the longer axis is not there yet. -/
theorem place_ne_goal (more : count < longest start goal) : place start goal count ≠ goal := by
  intro met
  have some : 0 < longest start goal := by omega
  have longer : longest start goal = (goal.x - start.x).natAbs ∨
      longest start goal = (goal.y - start.y).natAbs := max_choice _ _
  rcases longer with same | same
  · have column := congrArg Offset.x met
    simp only [place, ← same, steps_longest some] at column
    split_ifs at column <;> omega
  · have row := congrArg Offset.y met
    simp only [place, ← same, steps_longest some] at row
    split_ifs at row <;> omega

theorem next_walk (more : count < longest start goal) :
    (walk start goal count).next? =
      some (place start goal count, walk start goal (count + 1)) := by
  have unfinished : (walk start goal count).finished = false := rfl
  have elsewhere : (walk start goal count).cell ≠ (walk start goal count).goal :=
    place_ne_goal more
  rw [Tracer.next?, unfinished, if_neg Bool.false_ne_true, if_neg elsewhere, advance_walk more]
  rfl

theorem next_walk_longest (start goal : Offset) :
    (walk start goal (longest start goal)).next? =
      some (goal, { walk start goal (longest start goal) with finished := true }) := by
  have unfinished : (walk start goal (longest start goal)).finished = false := rfl
  have reached : (walk start goal (longest start goal)).cell =
      (walk start goal (longest start goal)).goal := place_longest start goal
  rw [Tracer.next?, unfinished, if_neg Bool.false_ne_true, if_pos reached]
  exact congrArg (fun cell => some (cell, _)) reached

theorem take_finished {tracer : Tracer} (finished : tracer.finished = true) (asked : Nat) :
    tracer.take asked = ([], tracer) := by
  cases asked with
  | zero => rfl
  | succ asked => simp only [Tracer.take, Tracer.next?, finished, if_true]

/-- However many cells are asked for, they are those of the segment, in order, and no more. -/
theorem take_walk (asked : Nat) (within : count ≤ longest start goal) :
    ((walk start goal count).take asked).1 =
      (List.range' count (min asked (longest start goal + 1 - count))).map (place start goal) := by
  induction asked generalizing count with
  | zero =>
      rw [Nat.zero_min]
      rfl
  | succ asked ih =>
      rcases within.lt_or_eq with more | rfl
      · have left : min (asked + 1) (longest start goal + 1 - count) =
            min asked (longest start goal + 1 - (count + 1)) + 1 := by omega
        rw [Tracer.take, next_walk more, left, List.range'_succ, List.map_cons, ← ih more]
      · have last : min (asked + 1) (longest start goal + 1 - longest start goal) = 1 := by omega
        rw [Tracer.take, next_walk_longest, last, List.range'_one, List.map_singleton,
          place_longest]
        simp only [take_finished]

theorem cells_eq (start goal : Offset) :
    cells start goal = (List.range (longest start goal + 1)).map (place start goal) := by
  have all : count start goal = longest start goal + 1 := rfl
  rw [cells, all, ← walk_zero, take_walk _ (Nat.zero_le _), Nat.sub_zero, Nat.min_self,
    List.range_eq_range']

theorem goal_mem_cells (start goal : Offset) : goal ∈ cells start goal := by
  rw [cells_eq, List.mem_map]
  exact ⟨longest start goal, List.mem_range.mpr (Nat.lt_succ_self _), place_longest start goal⟩

theorem between_of_mem_cells {cell : Offset} (member : cell ∈ cells start goal) :
    (min start.x goal.x ≤ cell.x ∧ cell.x ≤ max start.x goal.x) ∧
      (min start.y goal.y ≤ cell.y ∧ cell.y ≤ max start.y goal.y) := by
  rw [cells_eq, List.mem_map] at member
  obtain ⟨count, counted, rfl⟩ := member
  have within : count ≤ longest start goal := Nat.lt_succ_iff.mp (List.mem_range.mp counted)
  have columns := steps_le (le_max_left (goal.x - start.x).natAbs _) within
  have rows := steps_le (le_max_right _ (goal.y - start.y).natAbs) within
  rw [place]
  constructor
  · simp only [longest]
    split_ifs <;> omega
  · simp only [longest]
    split_ifs <;> omega

end Walk

end Segment

def Tracer.Gives (tracer : Tracer) (cell : Offset) : Prop :=
  ∃ asked, cell ∈ (tracer.take asked).1

theorem Segment.gives_iff_mem_cells {start goal cell : Offset} :
    (Tracer.along start goal).Gives cell ↔ cell ∈ Segment.cells start goal := by
  constructor
  · rintro ⟨asked, member⟩
    rw [← walk_zero, take_walk _ (Nat.zero_le _), List.mem_map] at member
    obtain ⟨count, counted, rfl⟩ := member
    rw [cells_eq]
    refine List.mem_map_of_mem (List.mem_range.mpr ?_)
    have := List.mem_range'_1.mp counted
    omega
  · intro member
    exact ⟨_, member⟩

end EvidenceGrid

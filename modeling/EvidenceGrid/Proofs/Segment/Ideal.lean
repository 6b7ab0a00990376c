import EvidenceGrid.Proofs.Segment.Words

/-!
A walk against the ideal segment between its ends. The cells are the ideal ones in every
direction, so a walk is connected, never turns back, and keeps within half a cell of the
segment. Here the ends are any signed words that lie at most `2 ^ 29` apart on each axis. Near
the ends of the words the step of an axis that is not walked would leave them, so a sum is asked
to fit only when its test lets the tracer compute it.
-/

set_option autoImplicit false

namespace EvidenceGrid

namespace Segment

def shortest (start goal : Offset) : Nat := min (goal.x - start.x).natAbs (goal.y - start.y).natAbs

def toward (start goal : Int) (count : Nat) : Int :=
  if start < goal then start + count else start - count

/-- The cell on the ideal segment after so many steps on the longer axis. The steps on the other
axis are the ideal ones rounded to the nearest, halves up. -/
def idealCell (start goal : Offset) (count : Nat) : Offset :=
  let across := (2 * count * shortest start goal + longest start goal) / (2 * longest start goal)
  if (goal.y - start.y).natAbs ≤ (goal.x - start.x).natAbs then
    ⟨toward start.x goal.x count, toward start.y goal.y across⟩
  else ⟨toward start.x goal.x across, toward start.y goal.y count⟩

variable {start goal : Offset} {count : Nat}

section Place

theorem signed_eq_toward (start goal : Int) (count : Nat) :
    start + (if start < goal then 1 else -1) * count = toward start goal count := by
  rw [toward]
  split_ifs <;> omega

theorem place_eq_toward (start goal : Offset) (count : Nat) :
    place start goal count =
      ⟨toward start.x goal.x (steps (longest start goal) (goal.x - start.x).natAbs count),
        toward start.y goal.y (steps (longest start goal) (goal.y - start.y).natAbs count)⟩ := by
  rw [place, signed_eq_toward, signed_eq_toward]

theorem steps_of_longest {longest count : Nat} (within : count ≤ longest) :
    steps longest longest count = count := by
  rcases Nat.eq_zero_or_pos longest with rfl | some
  · rw [Nat.le_zero.mp within, steps_none]
  · exact steps_longest some

theorem place_eq_ideal (within : count ≤ longest start goal) :
    place start goal count = idealCell start goal count := by
  rw [place_eq_toward, idealCell]
  by_cases flat : (goal.y - start.y).natAbs ≤ (goal.x - start.x).natAbs
  · have long : longest start goal = (goal.x - start.x).natAbs := max_eq_left flat
    have short : shortest start goal = (goal.y - start.y).natAbs := min_eq_right flat
    rw [if_pos flat, short, ← long, steps_of_longest within]
    rfl
  · have steep : (goal.x - start.x).natAbs ≤ (goal.y - start.y).natAbs := by omega
    have long : longest start goal = (goal.y - start.y).natAbs := max_eq_right steep
    have short : shortest start goal = (goal.x - start.x).natAbs := min_eq_left steep
    rw [if_neg flat, short, ← long, steps_of_longest within]
    rfl

end Place

section Shape

def MovesOn (start goal before after : Int) : Prop :=
  |after - before| ≤ 1 ∧ (start ≤ goal → before ≤ after) ∧ (goal ≤ start → after ≤ before)

theorem moves_on_toward {start goal : Int} {taken more : Nat} (unit : more ≤ 1)
    (none : start = goal → more = 0) :
    MovesOn start goal (toward start goal taken) (toward start goal (taken + more)) := by
  rw [MovesOn, abs_le, toward, toward]
  split_ifs <;> omega

theorem steps_still (longest count : Nat) : steps longest 0 count = 0 := by
  rw [steps, Nat.mul_zero, Nat.zero_add]
  exact Nat.div_eq_zero_iff.mpr (by omega)

theorem steps_moves_on {start goal : Int} {longest : Nat} (some : 0 < longest)
    (short : (goal - start).natAbs ≤ longest) (count : Nat) :
    MovesOn start goal (toward start goal (steps longest (goal - start).natAbs count))
      (toward start goal (steps longest (goal - start).natAbs (count + 1))) := by
  have next := steps_succ some short count
  split_ifs at next with passed
  · rw [next]
    apply moves_on_toward le_rfl
    rintro rfl
    rw [sub_self, Int.natAbs_zero, steps_still] at next
    omega
  · rw [next]
    exact moves_on_toward zero_le_one fun _ => rfl

theorem steps_near {longest : Nat} (some : 0 < longest) (extent count : Nat) :
    |(steps longest extent count : ℚ) - count / longest * extent| ≤ 1 / 2 := by
  obtain ⟨low, high⟩ := (steps_eq_iff some _).mp (rfl : steps longest extent count = _)
  have positive : (0 : ℚ) < longest := by exact_mod_cast some
  have lowCast : 2 * (longest : ℚ) * steps longest extent count ≤
      2 * count * extent + longest := by exact_mod_cast low
  have highCast : 2 * (count : ℚ) * extent + longest <
      2 * longest * steps longest extent count + 2 * longest := by exact_mod_cast high
  have scaled : (count : ℚ) / longest * extent * longest = count * extent := by
    rw [mul_right_comm, div_mul_cancel₀ _ positive.ne']
  rw [abs_le]
  constructor
  · apply le_of_mul_le_mul_right _ positive
    linarith
  · apply le_of_mul_le_mul_right _ positive
    linarith

theorem toward_distance (start goal : Int) (taken : Nat) (part : ℚ) :
    |(toward start goal taken : ℚ) - (start + part * (goal - start))| =
      |(taken : ℚ) - part * (goal - start).natAbs| := by
  rw [Nat.cast_natAbs, Int.cast_abs, toward]
  push_cast
  split_ifs with ahead
  · have positive : (0 : ℚ) < goal - start := by exact_mod_cast Int.sub_pos_of_lt ahead
    rw [abs_of_pos positive]
    congr 1
    ring
  · have negative : (goal - start : ℚ) ≤ 0 := by
      exact_mod_cast sub_nonpos.mpr (not_lt.mp ahead)
    rw [abs_of_nonpos negative, ← abs_neg]
    congr 1
    ring

/-- A place with a point of the segment beside it: both distances together are half a cell at
most, so the straight distance is as well. -/
def Beside (start goal place : Offset) : Prop :=
  ∃ part : ℚ, (0 ≤ part ∧ part ≤ 1) ∧
    |(place.x : ℚ) - (start.x + part * (goal.x - start.x))| +
      |(place.y : ℚ) - (start.y + part * (goal.y - start.y))| ≤ 1 / 2

theorem place_beside (within : count ≤ longest start goal) :
    Beside start goal (place start goal count) := by
  rcases Nat.eq_zero_or_pos (longest start goal) with none | some
  · have same : count = 0 := by omega
    refine ⟨0, ⟨le_rfl, zero_le_one⟩, ?_⟩
    rw [same, place_zero]
    norm_num
  · have positive : (0 : ℚ) < longest start goal := by exact_mod_cast some
    have below : (count : ℚ) ≤ longest start goal := by exact_mod_cast within
    refine ⟨count / longest start goal, ⟨by positivity, ?_⟩, ?_⟩
    · rwa [div_le_one positive]
    · have columns := steps_near some (goal.x - start.x).natAbs count
      have rows := steps_near some (goal.y - start.y).natAbs count
      have exact : |(steps (longest start goal) (longest start goal) count : ℚ) -
          count / longest start goal * longest start goal| = 0 := by
        rw [steps_longest some, div_mul_cancel₀ _ positive.ne', sub_self, abs_zero]
      rw [place_eq_toward, toward_distance, toward_distance]
      -- On the longer axis nothing is rounded.
      have longer : longest start goal = (goal.x - start.x).natAbs ∨
          longest start goal = (goal.y - start.y).natAbs := max_choice _ _
      rcases longer with same | same
      · rw [← same, exact]
        linarith
      · rw [← same, exact]
        linarith

theorem place_moves_on (more : count < longest start goal) :
    MovesOn start.x goal.x (place start goal count).x (place start goal (count + 1)).x ∧
      MovesOn start.y goal.y (place start goal count).y (place start goal (count + 1)).y := by
  have some : 0 < longest start goal := by omega
  rw [place_eq_toward, place_eq_toward]
  exact ⟨steps_moves_on some (le_max_left _ _) count, steps_moves_on some (le_max_right _ _) count⟩

theorem place_succ_ne (more : count < longest start goal) :
    place start goal (count + 1) ≠ place start goal count := by
  have some : 0 < longest start goal := by omega
  have longer : longest start goal = (goal.x - start.x).natAbs ∨
      longest start goal = (goal.y - start.y).natAbs := max_choice _ _
  intro same
  rcases longer with long | long
  · have column := congrArg Offset.x same
    simp only [place, ← long, steps_longest some] at column
    split_ifs at column <;> omega
  · have row := congrArg Offset.y same
    simp only [place, ← long, steps_longest some] at row
    split_ifs at row <;> omega

end Shape

section Words

structure StartFits (start goal : Offset) : Prop where
  distance : IsWord (goal.x - start.x) ∧ IsWord (goal.y - start.y)
  extent : IsWord (Tracer.along start goal).extent.x ∧ IsWord (Tracer.along start goal).extent.y
  error : IsWord (Tracer.along start goal).error

end Words

end Segment

/-- Every number that is computed when a tracer moves on is a word. The sums of an axis are
computed only when its test holds. -/
structure Tracer.AdvanceFits (tracer : Tracer) : Prop where
  doubled : IsWord (2 * tracer.error)
  alongX : tracer.extent.y ≤ 2 * tracer.error →
    IsWord (tracer.error + tracer.extent.y) ∧ IsWord (tracer.cell.x + tracer.step.x)
  alongY : 2 * tracer.error ≤ tracer.extent.x → IsWord (tracer.cell.y + tracer.step.y)
  error : IsWord tracer.advance.error

namespace Segment

variable {start goal : Offset} {count : Nat}

section Words

theorem start_fits (columns : |goal.x - start.x| ≤ 2 ^ 29) (rows : |goal.y - start.y| ≤ 2 ^ 29) :
    StartFits start goal := by
  rw [Int.abs_eq_natAbs] at columns rows
  constructor <;> simp only [IsWord, Tracer.along] <;> omega

theorem error_within (columns : |goal.x - start.x| ≤ 2 ^ 29) (rows : |goal.y - start.y| ≤ 2 ^ 29)
    (count : Nat) : |(walk start goal count).error| ≤ 3 * 2 ^ 28 := by
  have bounded := abs_error_le start goal count
  have long : longest start goal =
      max (goal.x - start.x).natAbs (goal.y - start.y).natAbs := rfl
  rw [Int.abs_eq_natAbs] at columns rows
  omega

theorem advance_fits (startWord : IsWord start.x ∧ IsWord start.y)
    (goalWord : IsWord goal.x ∧ IsWord goal.y) (columns : |goal.x - start.x| ≤ 2 ^ 29)
    (rows : |goal.y - start.y| ≤ 2 ^ 29) (more : count < longest start goal) :
    (walk start goal count).AdvanceFits := by
  have now := abs_le.mp (error_within columns rows count)
  have next := abs_le.mp (error_within columns rows (count + 1))
  have advanced := advance_walk more
  obtain ⟨⟨left, right⟩, bottom, top⟩ :=
    place_between (show count + 1 ≤ longest start goal from more)
  rw [Int.abs_eq_natAbs] at columns rows
  have extentY : (walk start goal count).extent.y = -((goal.y - start.y).natAbs : ℤ) := rfl
  constructor
  · rw [IsWord]
    omega
  · intro test
    have column := congrArg (fun tracer : Tracer => tracer.cell.x) advanced
    simp only [Tracer.advance, if_pos test] at column
    have reached : (walk start goal (count + 1)).cell.x = (place start goal (count + 1)).x := rfl
    rw [column, reached]
    simp only [IsWord] at startWord goalWord ⊢
    omega
  · intro test
    have row := congrArg (fun tracer : Tracer => tracer.cell.y) advanced
    simp only [Tracer.advance, if_pos test] at row
    have reached : (walk start goal (count + 1)).cell.y = (place start goal (count + 1)).y := rfl
    rw [row, reached]
    simp only [IsWord] at startWord goalWord ⊢
    omega
  · rw [advanced, IsWord]
    omega

theorem unfinished_of_take {asked : Nat}
    (unfinished : ((Tracer.along start goal).take asked).2.finished = false)
    (elsewhere : ((Tracer.along start goal).take asked).2.cell ≠ goal) :
    ∃ count < longest start goal,
      ((Tracer.along start goal).take asked).2 = walk start goal count := by
  obtain ⟨reached, within, finished, last⟩ := take_last asked (Nat.zero_le (longest start goal))
  rw [walk_zero] at last
  rw [last] at unfinished elsewhere ⊢
  rcases within.lt_or_eq with more | rfl
  · refine ⟨reached, more, ?_⟩
    cases finished
    · rfl
    · cases unfinished
  · exact absurd (place_longest start goal) elsewhere

end Words

theorem take_past {asked : Nat} (enough : longest start goal + 1 - count ≤ asked)
    (within : count ≤ longest start goal) :
    ((walk start goal count).take asked).2.next? = none := by
  induction asked generalizing count with
  | zero => omega
  | succ asked ih =>
      rcases within.lt_or_eq with more | rfl
      · rw [Tracer.take, next_walk more]
        exact ih (by omega) more
      · rw [Tracer.take, next_walk_longest]
        simp only [take_finished]
        rfl

structure Rasterises (start goal : Offset) : Prop where
  counted : Segment.count start goal = longest start goal + 1
  cells : ∀ asked, ((Tracer.along start goal).take asked).1 =
    (List.range (min asked (Segment.count start goal))).map (idealCell start goal)
  ended : ∀ asked, Segment.count start goal ≤ asked →
    ((Tracer.along start goal).take asked).2.next? = none
  first : idealCell start goal 0 = start
  last : idealCell start goal (longest start goal) = goal
  connected : ∀ step < longest start goal,
    idealCell start goal (step + 1) ≠ idealCell start goal step ∧
      MovesOn start.x goal.x (idealCell start goal step).x (idealCell start goal (step + 1)).x ∧
      MovesOn start.y goal.y (idealCell start goal step).y (idealCell start goal (step + 1)).y
  boxed : ∀ step ≤ longest start goal,
    (min start.x goal.x ≤ (idealCell start goal step).x ∧
        (idealCell start goal step).x ≤ max start.x goal.x) ∧
      (min start.y goal.y ≤ (idealCell start goal step).y ∧
        (idealCell start goal step).y ≤ max start.y goal.y)
  near : ∀ step ≤ longest start goal, Beside start goal (idealCell start goal step)
  startWords : StartFits start goal
  words : ∀ asked, ((Tracer.along start goal).take asked).2.finished = false →
    ((Tracer.along start goal).take asked).2.cell ≠ goal →
      ((Tracer.along start goal).take asked).2.AdvanceFits

/-- Between any two places of signed words, at most `2 ^ 29` apart on each axis, a tracer gives the
cells of the ideal segment and then nothing, and computes words only. -/
theorem walk_rasterises (startWord : IsWord start.x ∧ IsWord start.y)
    (goalWord : IsWord goal.x ∧ IsWord goal.y) (columns : |goal.x - start.x| ≤ 2 ^ 29)
    (rows : |goal.y - start.y| ≤ 2 ^ 29) : Rasterises start goal := by
  have ideal {step : Nat} (within : step ≤ longest start goal) :
      idealCell start goal step = place start goal step := (place_eq_ideal within).symm
  have all : Segment.count start goal = longest start goal + 1 := rfl
  constructor
  · exact all
  · intro asked
    rw [← walk_zero, take_walk _ (Nat.zero_le _), Nat.sub_zero, ← all, List.range_eq_range']
    apply List.map_congr_left
    intro step counted
    have below := (List.mem_range'_1.mp counted).2
    exact place_eq_ideal (by omega)
  · intro asked enough
    rw [← walk_zero]
    exact take_past (by omega) (Nat.zero_le _)
  · rw [ideal (Nat.zero_le _), place_zero]
  · rw [ideal le_rfl, place_longest]
  · intro step more
    rw [ideal more.le, ideal (Nat.succ_le_of_lt more)]
    exact ⟨place_succ_ne more, place_moves_on more⟩
  · intro step within
    rw [ideal within]
    exact place_between within
  · intro step within
    rw [ideal within]
    exact place_beside within
  · exact start_fits columns rows
  · intro asked unfinished elsewhere
    obtain ⟨reached, more, same⟩ := unfinished_of_take unfinished elsewhere
    rw [same]
    exact advance_fits startWord goalWord columns rows more

theorem walk_rasterises_last_columns :
    let start : Offset := ⟨2 ^ 31 - 1, 0⟩
    let goal : Offset := ⟨2 ^ 31 - 5, 2⟩
    (IsWord start.x ∧ IsWord start.y) ∧ (IsWord goal.x ∧ IsWord goal.y) ∧
      |goal.x - start.x| ≤ 2 ^ 29 ∧ |goal.y - start.y| ≤ 2 ^ 29 ∧ Rasterises start goal ∧
      ((Tracer.along start goal).take 9).1 = [⟨2147483647, 0⟩, ⟨2147483646, 1⟩,
        ⟨2147483645, 1⟩, ⟨2147483644, 2⟩, ⟨2147483643, 2⟩] := by
  intro start goal
  have startWord : IsWord start.x ∧ IsWord start.y := by
    norm_num [IsWord, start]
  have goalWord : IsWord goal.x ∧ IsWord goal.y := by
    norm_num [IsWord, goal]
  have columns : |goal.x - start.x| ≤ 2 ^ 29 := by
    norm_num [start, goal]
  have rows : |goal.y - start.y| ≤ 2 ^ 29 := by
    norm_num [start, goal]
  have traced := walk_rasterises startWord goalWord columns rows
  exact ⟨startWord, goalWord, columns, rows, traced, (traced.cells 9).trans (by decide)⟩

end Segment

end EvidenceGrid

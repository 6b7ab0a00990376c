import EvidenceGrid.Proofs.Binary32.Error

/-!
Walking on the binary32 grid toward a goal by rounded steps of one length. Each step leads
nearer to the goal or nowhere, and the grid has only so many numbers between, so every walk
comes to rest. It may do so before the goal: a step is lost in rounding where the number is
`2 ^ 24` times as large, and only there.
-/

set_option autoImplicit false

namespace EvidenceGrid.Binary32

theorem abs_le_of_absorbed {base step : ℚ} (baseMultiple : Multiple base)
    (stepMultiple : Multiple step) (absorbed : rounded (base + step) = base) :
    2 ^ 24 * |step| ≤ |base| := by
  by_cases zero : base + step = 0
  · rw [zero, rounded_zero] at absorbed
    rw [← absorbed, zero_add] at zero
    rw [zero, abs_zero, mul_zero]
    exact abs_nonneg _
  have error := rounded_error (base + step)
  rw [absorbed, sub_add_cancel_left, abs_neg] at error
  rcases (scale_floor (base + step)).lt_or_eq with normal | least
  · -- The sum has all its digits, and so does its rounding.
    have spacingGrid : OnGrid (2 ^ 23 * spacing (base + step)) :=
      ⟨2 ^ 23, scale (base + step), by norm_num, scale_floor _, by norm_num [spacing]⟩
    have size := rounded_mono (spacing_le_abs zero normal)
    rw [rounded_of_on_grid spacingGrid, ← rounded_abs, absorbed] at size
    linarith
  · -- In the underflow range the sum itself is on the grid.
    obtain ⟨whole, same⟩ := multiple_add baseMultiple stepMultiple
    have nearest := rounded_nearest_multiple (base + step) whole
    rw [spacing, ← least, ← same, sub_self, abs_zero, absorbed, sub_add_cancel_left, abs_neg]
      at nearest
    rw [le_antisymm nearest (abs_nonneg _), mul_zero]
    exact abs_nonneg _

section Terms

variable {base step : ℚ}

theorem le_rounded_add (grid : OnGrid base) (nonneg : 0 ≤ step) : base ≤ rounded (base + step) := by
  have kept := rounded_mono (le_add_of_nonneg_right (a := base) nonneg)
  rwa [rounded_of_on_grid grid] at kept

theorem rounded_sub_le (grid : OnGrid base) (nonneg : 0 ≤ step) : rounded (base - step) ≤ base := by
  have kept := rounded_mono (sub_le_self base nonneg)
  rwa [rounded_of_on_grid grid] at kept

end Terms

/-- A number after one step toward a goal, which is not passed. -/
def nearer (goal step start : ℚ) : ℚ :=
  if start ≤ goal then min goal (rounded (start + step)) else max goal (rounded (start - step))

section Step

variable {goal step start : ℚ}

theorem on_grid_nearer (step start : ℚ) (goalGrid : OnGrid goal) :
    OnGrid (nearer goal step start) := by
  rw [nearer]
  split_ifs
  · rcases min_choice goal (rounded (start + step)) with same | same
    · rwa [same]
    · rw [same]
      exact rounded_on_grid _
  · rcases max_choice goal (rounded (start - step)) with same | same
    · rwa [same]
    · rw [same]
      exact rounded_on_grid _

theorem nearer_between (goal : ℚ) (grid : OnGrid start) (nonneg : 0 ≤ step) :
    (start ≤ nearer goal step start ∧ nearer goal step start ≤ goal) ∨
      (goal ≤ nearer goal step start ∧ nearer goal step start ≤ start) := by
  rw [nearer]
  split_ifs with below
  · exact Or.inl ⟨le_min below (le_rounded_add grid nonneg), min_le_left _ _⟩
  · exact Or.inr ⟨le_max_left _ _, max_le (not_le.mp below).le (rounded_sub_le grid nonneg)⟩

theorem nearer_goal (grid : OnGrid goal) (nonneg : 0 ≤ step) : nearer goal step goal = goal := by
  rcases nearer_between goal grid nonneg with ⟨above, below⟩ | ⟨above, below⟩
  · exact le_antisymm below above
  · exact le_antisymm below above

theorem distance_nearer_le (startGrid : OnGrid start) (goalGrid : OnGrid goal) (nonneg : 0 ≤ step)
    (moved : nearer goal step start ≠ start) :
    |goal - nearer goal step start| + 2 ^ (-149 : ℤ) ≤ |goal - start| := by
  have gap := least_le_abs (multiple_sub
    (multiple_of_on_grid (on_grid_nearer step start goalGrid)) (multiple_of_on_grid startGrid))
    (sub_ne_zero.mpr moved)
  rcases nearer_between goal startGrid nonneg with ⟨above, below⟩ | ⟨above, below⟩
  · rw [abs_of_nonneg (sub_nonneg.mpr above)] at gap
    rw [abs_of_nonneg (sub_nonneg.mpr below), abs_of_nonneg (sub_nonneg.mpr (above.trans below))]
    linarith
  · rw [abs_of_nonpos (sub_nonpos.mpr below)] at gap
    rw [abs_of_nonpos (sub_nonpos.mpr above), abs_of_nonpos (sub_nonpos.mpr (above.trans below))]
    linarith

/-- A number at rest is the goal, or so large that the step is lost. -/
theorem rest_cases (startGrid : OnGrid start) (stepGrid : OnGrid step) (positive : 0 < step)
    (rest : nearer goal step start = start) : start = goal ∨ 2 ^ 24 * step ≤ |start| := by
  have startMultiple := multiple_of_on_grid startGrid
  have stepMultiple := multiple_of_on_grid stepGrid
  rw [nearer] at rest
  split_ifs at rest with below
  · rcases min_choice goal (rounded (start + step)) with reached | absorbed
    · exact Or.inl (rest.symm.trans reached)
    · have size := abs_le_of_absorbed startMultiple stepMultiple (absorbed.symm.trans rest)
      rw [abs_of_pos positive] at size
      exact Or.inr size
  · rcases max_choice goal (rounded (start - step)) with reached | absorbed
    · exact Or.inl (rest.symm.trans reached)
    · have back : Multiple (-step) := by
        rw [← zero_sub]
        exact multiple_sub (multiple_of_on_grid on_grid_zero) stepMultiple
      rw [sub_eq_add_neg] at absorbed rest
      have size := abs_le_of_absorbed startMultiple back (absorbed.symm.trans rest)
      rw [abs_neg, abs_of_pos positive] at size
      exact Or.inr size

theorem moved_le (goal : ℚ) (grid : OnGrid start) (nonneg : 0 ≤ step) :
    |nearer goal step start - start| ≤ 2 * step := by
  have close (term : ℚ) : |rounded (start + term) - start| ≤ 2 * |term| := by
    have nearest := rounded_nearest (start + term) grid
    rw [sub_add_cancel_left, abs_neg] at nearest
    have triangle := abs_sub_le (rounded (start + term)) (start + term) start
    rw [add_sub_cancel_left] at triangle
    linarith
  rw [nearer]
  split_ifs with below
  · have lower := le_min below (le_rounded_add grid nonneg)
    have ahead := (abs_le.mp (close step)).2
    rw [abs_of_nonneg nonneg] at ahead
    rw [abs_of_nonneg (sub_nonneg.mpr lower)]
    linarith [min_le_right goal (rounded (start + step))]
  · have upper := max_le (not_le.mp below).le (rounded_sub_le grid nonneg)
    have back := (abs_le.mp (close (-step))).1
    rw [abs_neg, abs_of_nonneg nonneg, ← sub_eq_add_neg] at back
    rw [abs_of_nonpos (sub_nonpos.mpr upper)]
    linarith [le_max_right goal (rounded (start - step))]

theorem size_of_moved (startGrid : OnGrid start) (goalGrid : OnGrid goal) (positive : 0 < step)
    (moved : nearer goal step start ≠ start) :
    |start| < 2 ^ 26 * step ∧ |nearer goal step start| < 2 ^ 26 * step := by
  have short := moved_le goal startGrid positive.le
  have endGrid := on_grid_nearer step start goalGrid
  have first := abs_le_of_apart startGrid endGrid moved.symm
  have second := abs_le_of_apart endGrid startGrid moved
  rw [abs_sub_comm] at first
  constructor <;> linarith

end Step

section Walk

variable {goal step start : ℚ}

theorem on_grid_walk (step : ℚ) (goalGrid : OnGrid goal) (startGrid : OnGrid start) (count : ℕ) :
    OnGrid ((nearer goal step)^[count] start) := by
  cases count with
  | zero => exact startGrid
  | succ count =>
      rw [Function.iterate_succ_apply']
      exact on_grid_nearer step _ goalGrid

theorem walk_size_le (goalGrid : OnGrid goal) (startGrid : OnGrid start) (nonneg : 0 ≤ step)
    (count : ℕ) : |(nearer goal step)^[count] start| ≤ max |start| |goal| := by
  induction count with
  | zero => exact le_max_left _ _
  | succ count ih =>
      have grid := on_grid_walk step goalGrid startGrid count
      rw [Function.iterate_succ_apply']
      refine le_trans ?_ (max_le ih (le_max_right _ _))
      rcases nearer_between goal grid nonneg with ⟨above, below⟩ | ⟨above, below⟩
      · exact abs_le_max_abs_abs above below
      · rw [max_comm]
        exact abs_le_max_abs_abs above below

/-- Every walk comes to rest, because each step that leads anywhere shortens the distance by a
multiple of the least number. -/
theorem walk_rests (goalGrid : OnGrid goal) (startGrid : OnGrid start) (nonneg : 0 ≤ step) :
    ∃ count, nearer goal step ((nearer goal step)^[count] start) =
      (nearer goal step)^[count] start := by
  have unit : (0 : ℚ) < 2 ^ (-149 : ℤ) := by positivity
  obtain ⟨whole, distance⟩ := multiple_abs
    (multiple_sub (multiple_of_on_grid goalGrid) (multiple_of_on_grid startGrid))
  have bounded : |goal - start| ≤ (whole.toNat : ℚ) * 2 ^ (-149 : ℤ) := by
    rw [distance]
    apply mul_le_mul_of_nonneg_right _ unit.le
    exact_mod_cast Int.self_le_toNat whole
  generalize whole.toNat = bound at bounded
  clear distance
  induction bound generalizing start with
  | zero =>
      rw [Nat.cast_zero, zero_mul] at bounded
      have reached : goal = start := sub_eq_zero.mp (abs_nonpos_iff.mp bounded)
      refine ⟨0, ?_⟩
      rw [Function.iterate_zero_apply, ← reached]
      exact nearer_goal goalGrid nonneg
  | succ bound ih =>
      by_cases rest : nearer goal step start = start
      · exact ⟨0, rest⟩
      · have shorter := distance_nearer_le startGrid goalGrid nonneg rest
        push_cast at bounded
        obtain ⟨count, settled⟩ := ih (on_grid_nearer step start goalGrid) (by linarith)
        exact ⟨count + 1, settled⟩

/-- A walk that stops short of its goal has become too large for its steps. -/
theorem walk_reaches (goalGrid : OnGrid goal) (startGrid : OnGrid start) (stepGrid : OnGrid step)
    (positive : 0 < step) (startSmall : |start| < 2 ^ 24 * step)
    (goalSmall : |goal| < 2 ^ 24 * step) {count : ℕ}
    (rest : nearer goal step ((nearer goal step)^[count] start) =
      (nearer goal step)^[count] start) : (nearer goal step)^[count] start = goal := by
  have grid := on_grid_walk step goalGrid startGrid count
  have size := walk_size_le goalGrid startGrid positive.le count
  rcases rest_cases grid stepGrid positive rest with reached | large
  · exact reached
  · exact absurd (max_lt startSmall goalSmall) (not_lt.mpr (large.trans size))

theorem size_of_walk_reached (goalGrid : OnGrid goal) (startGrid : OnGrid start)
    (positive : 0 < step) {count : ℕ} (reached : (nearer goal step)^[count] start = goal) :
    start = goal ∨ |start| < 2 ^ 26 * step ∧ |goal| < 2 ^ 26 * step := by
  by_cases rest : nearer goal step start = start
  · rw [Function.iterate_fixed rest] at reached
    exact Or.inl reached
  · refine or_iff_not_imp_left.mpr fun away => ?_
    refine ⟨(size_of_moved startGrid goalGrid positive rest).1, ?_⟩
    induction count with
    | zero => exact absurd reached away
    | succ count ih =>
        by_cases before : (nearer goal step)^[count] start = goal
        · exact ih before
        · rw [Function.iterate_succ_apply'] at reached
          have grid := on_grid_walk step goalGrid startGrid count
          have moved : nearer goal step ((nearer goal step)^[count] start) ≠
              (nearer goal step)^[count] start := fun same => before (same.symm.trans reached)
          have size := (size_of_moved grid goalGrid positive moved).2
          rwa [reached] at size

end Walk

end EvidenceGrid.Binary32

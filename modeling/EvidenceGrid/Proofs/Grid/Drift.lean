import EvidenceGrid.Proofs.Grid.Roll
import EvidenceGrid.Proofs.Lattice.Exact

/-!
Where many moves of a window leave its corner. Each move adds whole cells to the
corner and rounds the sum, so what is left over does not cancel when the moves do: the
corner drifts by the sum of these slips. The drift is small for each move, and there is
none as long as the corner and the cell are multiples of one power of two that 24 digits
can count.
-/

set_option autoImplicit false

namespace EvidenceGrid

open EvidenceGrid.Binary32

namespace Axis

def moved (corner side : ℚ) (cells : ℤ) : ℚ :=
  rounded (corner + rounded (rounded cells * side))

/-- By how much a move misses the place that it stands for. -/
def slip (corner side : ℚ) (cells : ℤ) : ℚ := moved corner side cells - (corner + cells * side)

def follow (corner side : ℚ) (moves : List ℤ) : ℚ :=
  moves.foldl (fun corner cells => moved corner side cells) corner

/-- The slips of all moves, each from where the moves before it led. -/
def drift (corner side : ℚ) : List ℤ → ℚ
  | [] => 0
  | cells :: rest => slip corner side cells + drift (moved corner side cells) side rest

section Drift

variable {corner side : ℚ} {moves : List ℤ}

theorem moved_on_grid (corner side : ℚ) (cells : ℤ) : OnGrid (moved corner side cells) :=
  rounded_on_grid _

theorem moved_zero (cornerGrid : OnGrid corner) (side : ℚ) : moved corner side 0 = corner := by
  rw [moved, Int.cast_zero, rounded_zero, zero_mul, rounded_zero, add_zero,
    rounded_of_on_grid cornerGrid]

theorem follow_concat (corner side : ℚ) (moves : List ℤ) (cells : ℤ) :
    follow corner side (moves ++ [cells]) = moved (follow corner side moves) side cells := by
  rw [follow, List.foldl_append]
  rfl

theorem follow_eq (corner side : ℚ) (moves : List ℤ) :
    follow corner side moves = corner + moves.sum * side + drift corner side moves := by
  induction moves generalizing corner with
  | nil => simp [follow, drift]
  | cons cells rest ih =>
      have later := ih (moved corner side cells)
      rw [follow] at later ⊢
      rw [List.foldl_cons, later, drift, slip, List.sum_cons]
      push_cast
      ring

theorem slip_le {reach : ℚ} {cells : ℤ} (cornerGrid : OnGrid corner) (sideGrid : OnGrid side)
    (cellsGrid : OnGrid cells) (near : |corner| ≤ reach)
    (movedNear : |moved corner side cells| ≤ reach) :
    |slip corner side cells| ≤ reach / 2 ^ 22 := by
  rw [slip]
  rw [moved, rounded_of_on_grid cellsGrid] at movedNear ⊢
  have walked := walk_error sideGrid cells
  set walk := rounded (cells * side)
  have reached : |rounded (corner + walk) - (corner + walk)| ≤ |corner + walk| / 2 ^ 24 :=
    rounded_relative (multiple_add (multiple_of_on_grid cornerGrid)
      (multiple_of_on_grid (rounded_on_grid _)))
  have sumSize := size_of_rounded reached
  have walkSize : |walk| ≤ |corner + walk| + |corner| := by
    have := abs_sub (corner + walk) corner
    rwa [add_sub_cancel_left] at this
  have cellsSize : |cells * side| ≤ |walk| + |walk| / 2 ^ 10 := size_of_rounded walked
  have triangle := abs_sub_le (rounded (corner + walk)) (corner + walk) (corner + cells * side)
  rw [add_sub_add_left_eq_sub] at triangle
  have nonneg := abs_nonneg corner
  linarith

theorem drift_le {reach : ℚ} (cornerGrid : OnGrid corner) (sideGrid : OnGrid side)
    (counted : ∀ cells ∈ moves, OnGrid (cells : ℚ))
    (near : ∀ first, first <+: moves → |follow corner side first| ≤ reach) :
    |drift corner side moves| ≤ moves.length * (reach / 2 ^ 22) := by
  induction moves generalizing corner with
  | nil => simp [drift]
  | cons cells rest ih =>
      have first := slip_le cornerGrid sideGrid (counted cells List.mem_cons_self)
        (near [] List.nil_prefix) (near [cells] (List.prefix_append [cells] rest))
      have later := ih (moved_on_grid corner side cells)
        (fun other member => counted other (List.mem_cons_of_mem _ member))
        (fun some ahead => near (cells :: some) (List.cons_prefix_cons.mpr ⟨rfl, ahead⟩))
      have triangle := abs_add_le (slip corner side cells)
        (drift (moved corner side cells) side rest)
      rw [drift, List.length_cons]
      push_cast
      linarith

end Drift

section Exact

variable {power : ℤ} {corner side : ℚ} {cells : ℤ}

theorem moved_exact (floor : -149 ≤ power) (cornerUnits : CountsUnits power corner)
    (sideUnits : CountsUnits power side) (cellsGrid : OnGrid cells)
    (walkFew : |cells * side| ≤ 2 ^ 24 * 2 ^ power)
    (placeFew : |corner + cells * side| ≤ 2 ^ 24 * 2 ^ power) :
    moved corner side cells = corner + cells * side := by
  have walk := on_grid_of_units floor (units_of_walk sideUnits cells) walkFew
  have place := on_grid_of_units floor (units_of_move cornerUnits sideUnits cells) placeFew
  rw [moved, rounded_of_on_grid cellsGrid, rounded_of_on_grid walk, rounded_of_on_grid place]

theorem moved_between (floor : -149 ≤ power) (cornerUnits : CountsUnits power corner)
    (sideUnits : CountsUnits power side) (cellsGrid : OnGrid cells)
    (near : |corner| < 2 ^ 23 * 2 ^ power)
    (movedNear : |moved corner side cells| < 2 ^ 23 * 2 ^ power) :
    moved corner side cells = corner + cells * side := by
  have unit : (0 : ℚ) < 2 ^ power := by positivity
  -- From the end backwards: the sum that was rounded is near, so the rounded walk is no
  -- longer than 24 digits, so the walk is exact, and then so is the sum.
  have sumNear := movedNear
  rw [moved, rounded_of_on_grid cellsGrid] at sumNear
  replace sumNear := abs_lt_of_rounded (digits_on_grid floor (by norm_num)) sumNear
  have walkNear : |rounded (cells * side)| < 2 ^ 24 * 2 ^ power := by
    linarith [abs_walk_le corner (rounded (cells * side))]
  replace walkNear := abs_lt_of_rounded (digits_on_grid floor le_rfl) walkNear
  have walk := on_grid_of_units floor (units_of_walk sideUnits cells) walkNear.le
  rw [rounded_of_on_grid walk] at sumNear
  exact moved_exact floor cornerUnits sideUnits cellsGrid walkNear.le (by linarith)

theorem drift_eq_zero (floor : -149 ≤ power) {moves : List ℤ}
    (cornerUnits : CountsUnits power corner) (sideUnits : CountsUnits power side)
    (counted : ∀ cells ∈ moves, OnGrid (cells : ℚ))
    (near : ∀ first, first <+: moves → |follow corner side first| < 2 ^ 23 * 2 ^ power) :
    drift corner side moves = 0 := by
  induction moves generalizing corner with
  | nil => rfl
  | cons cells rest ih =>
      have same := moved_between floor cornerUnits sideUnits
        (counted cells List.mem_cons_self) (near [] List.nil_prefix)
        (near [cells] (List.prefix_append [cells] rest))
      have movedUnits : CountsUnits power (moved corner side cells) :=
        same ▸ units_of_move cornerUnits sideUnits cells
      have later := ih movedUnits
        (fun other member => counted other (List.mem_cons_of_mem _ member))
        (fun some ahead => near (cells :: some) (List.cons_prefix_cons.mpr ⟨rfl, ahead⟩))
      rw [drift, later, slip, same, sub_self, add_zero]

theorem slip_sum_eq_zero (floor : -149 ≤ power) {moves : List ℤ} (positive : 0 < side)
    (cornerUnits : CountsUnits power corner) (sideUnits : CountsUnits power side)
    (near : |corner| < 2 ^ 23 * 2 ^ power)
    (lastNear : |follow corner side moves| < 2 ^ 23 * 2 ^ power)
    (still : drift corner side moves = 0) : slip corner side moves.sum = 0 := by
  have unit : (0 : ℚ) < 2 ^ power := by positivity
  rw [follow_eq, still, add_zero] at lastNear
  have walkNear : |moves.sum * side| < 2 ^ 24 * 2 ^ power := by
    linarith [abs_walk_le corner (moves.sum * side)]
  have cellsGrid := cells_on_grid positive sideUnits walkNear.le
  have exact := moved_exact floor cornerUnits sideUnits cellsGrid walkNear.le (by linarith)
  rw [slip, exact, sub_self]

end Exact

theorem move_value {corner side cells : Float32} {whole : ℤ}
    (finite : (corner + cells * side).isFinite = true) (counted : number cells = rounded whole) :
    number (corner + cells * side) = moved (number corner) (number side) whole := by
  obtain ⟨cornerFinite, walkFinite⟩ := finite_operands_of_add finite
  obtain ⟨cellsFinite, sideFinite⟩ := finite_operands_of_mul walkFinite
  rw [(add_computes cornerFinite walkFinite).number_eq finite,
    (mul_computes cellsFinite sideFinite).number_eq walkFinite, counted, moved]

end Axis

/-- A shift that says how many cells the corner was moved, and not only up to the map's
own size. -/
def Lattice.Unclamped (lattice : Lattice) (target : Point) (shift : Offset) : Prop :=
  number (lattice.cellsTo target).x = shift.x ∧ number (lattice.cellsTo target).y = shift.y

instance (lattice : Lattice) (target : Point) (shift : Offset) :
    Decidable (lattice.Unclamped target shift) :=
  inferInstanceAs (Decidable (_ ∧ _))

namespace Grid

variable {α : Type}

inductive Rolls : Grid α → List Offset → Grid α → Prop
  | none (grid : Grid α) : Rolls grid [] grid
  | more {grid before after : Grid α} {shifts : List Offset} {target : Point} {entering : α}
      {shift : Offset} (earlier : Rolls grid shifts before)
      (ran : before.rollTo target entering = .ok (after, shift))
      (whole : before.lattice.Unclamped target shift) : Rolls grid (shifts ++ [shift]) after

theorem corner_of_roll {before after : Grid α} {target : Point} {entering : α} {shift : Offset}
    (ran : before.rollTo target entering = .ok (after, shift))
    (whole : before.lattice.Unclamped target shift) :
    after.lattice.origin.isFinite = true ∧
    after.lattice.resolution = before.lattice.resolution ∧
    (OnGrid shift.x ∧ OnGrid shift.y) ∧
    number after.lattice.origin.x =
      Axis.moved (number before.lattice.origin.x) (number before.lattice.resolution) shift.x ∧
    number after.lattice.origin.y =
      Axis.moved (number before.lattice.origin.y) (number before.lattice.resolution) shift.y := by
  have rolled := rolled_by_of_roll_to ran
  have cornerFinite := (Lattice.finite_of_snap rolled.finite).1
  obtain ⟨columns, rows⟩ := whole
  have xGrid : OnGrid (shift.x : ℚ) := columns ▸ on_grid_number _
  have yGrid : OnGrid (shift.y : ℚ) := rows ▸ on_grid_number _
  rw [rolled.lattice_eq]
  split_ifs with still
  · rw [still]
    exact ⟨cornerFinite, rfl, ⟨on_grid_zero, on_grid_zero⟩,
      (Axis.moved_zero (on_grid_number _) _).symm, (Axis.moved_zero (on_grid_number _) _).symm⟩
  · obtain ⟨xFinite, yFinite⟩ := (Lattice.finite_iff _).mp rolled.finite
    exact ⟨rolled.finite, rfl, ⟨xGrid, yGrid⟩,
      Axis.move_value xFinite (columns.trans (rounded_of_on_grid xGrid).symm),
      Axis.move_value yFinite (rows.trans (rounded_of_on_grid yGrid).symm)⟩

theorem corner_of_rolls {grid after : Grid α} {shifts : List Offset}
    (finite : grid.lattice.origin.isFinite = true) (rolls : Rolls grid shifts after) :
    after.lattice.origin.isFinite = true ∧
    after.lattice.resolution = grid.lattice.resolution ∧
    (∀ shift ∈ shifts, OnGrid (shift.x : ℚ) ∧ OnGrid (shift.y : ℚ)) ∧
    number after.lattice.origin.x = Axis.follow (number grid.lattice.origin.x)
      (number grid.lattice.resolution) (shifts.map Offset.x) ∧
    number after.lattice.origin.y = Axis.follow (number grid.lattice.origin.y)
      (number grid.lattice.resolution) (shifts.map Offset.y) := by
  induction rolls with
  | none => exact ⟨finite, rfl, by simp, rfl, rfl⟩
  | more earlier ran whole ih =>
      obtain ⟨-, resolution, counted, x, y⟩ := ih
      obtain ⟨nowFinite, kept, nowCounted, nowX, nowY⟩ := corner_of_roll ran whole
      refine ⟨nowFinite, kept.trans resolution, ?_, ?_, ?_⟩
      · intro shift member
        rcases List.mem_append.mp member with before | last
        · exact counted shift before
        · rw [List.mem_singleton.mp last]
          exact nowCounted
      · rw [nowX, x, resolution, List.map_append, List.map_singleton, Axis.follow_concat]
      · rw [nowY, y, resolution, List.map_append, List.map_singleton, Axis.follow_concat]

/-- Where moves by whole cells lead a corner on one axis. -/
structure Drifts (corner side : Float32) (moves : List ℤ) (final : Float32) : Prop where
  value : number final = number corner + moves.sum * number side +
    Axis.drift (number corner) (number side) moves
  /-- The moves end where one move by their sum does exactly when they slip as far as it. -/
  at_once_iff : ∀ cells : Float32, number cells = rounded moves.sum →
    (corner + cells * side).isFinite = true →
      ((final == corner + cells * side) = true ↔
        Axis.drift (number corner) (number side) moves =
          Axis.slip (number corner) (number side) moves.sum)
  bounded : ∀ reach : ℚ,
    (∀ first, first <+: moves → |Axis.follow (number corner) (number side) first| ≤ reach) →
      |Axis.drift (number corner) (number side) moves| ≤ moves.length * (reach / 2 ^ 22)
  /-- There are no slips, of many moves or one, while corners of 23 digits count units of a
  power of two that the side counts too. -/
  still : ∀ power : ℤ, -149 ≤ power → Axis.CountsUnits power (number corner) →
    Axis.CountsUnits power (number side) →
    (∀ first, first <+: moves →
      |Axis.follow (number corner) (number side) first| < 2 ^ 23 * 2 ^ power) →
      Axis.drift (number corner) (number side) moves = 0 ∧
        Axis.slip (number corner) (number side) moves.sum = 0

theorem drifts_of_follow {corner side final : Float32} {moves : List ℤ}
    (positive : 0 < number side) (counted : ∀ cells ∈ moves, OnGrid (cells : ℚ))
    (finite : final.isFinite = true)
    (led : number final = Axis.follow (number corner) (number side) moves) :
    Drifts corner side moves final := by
  have value := led.trans (Axis.follow_eq _ _ _)
  constructor
  · exact value
  · intro cells whole sumFinite
    rw [beq_iff finite sumFinite, Axis.move_value sumFinite whole, value, Axis.slip,
      eq_sub_iff_add_eq']
  · intro reach near
    exact Axis.drift_le (on_grid_number _) (on_grid_number _) counted near
  · intro power floor cornerUnits sideUnits near
    have drift := Axis.drift_eq_zero floor cornerUnits sideUnits counted near
    exact ⟨drift, Axis.slip_sum_eq_zero floor positive cornerUnits sideUnits
      (near [] List.nil_prefix) (near moves List.prefix_rfl) drift⟩

/-- A run of rolls by unclamped shifts leaves the corner, on each axis, at the first corner
plus all cells and all slips; each corner on the way is that of the shifts so far. -/
theorem rolls_drift {grid after : Grid α} {shifts : List Offset}
    (usable : grid.lattice.validate = .ok ()) (finite : grid.lattice.origin.isFinite = true)
    (rolls : Rolls grid shifts after) :
    number after.lattice.origin.x = Axis.follow (number grid.lattice.origin.x)
        (number grid.lattice.resolution) (shifts.map Offset.x) ∧
      number after.lattice.origin.y = Axis.follow (number grid.lattice.origin.y)
        (number grid.lattice.resolution) (shifts.map Offset.y) ∧
      Drifts grid.lattice.origin.x grid.lattice.resolution (shifts.map Offset.x)
        after.lattice.origin.x ∧
      Drifts grid.lattice.origin.y grid.lattice.resolution (shifts.map Offset.y)
        after.lattice.origin.y := by
  have positive := ((Lattice.validate_ok_iff _).mp usable).positive
  obtain ⟨afterFinite, -, counted, x, y⟩ := corner_of_rolls finite rolls
  obtain ⟨xFinite, yFinite⟩ := (Lattice.finite_iff _).mp afterFinite
  have columns : ∀ cells ∈ shifts.map Offset.x, OnGrid (cells : ℚ) := by
    simpa using fun shift member => (counted shift member).1
  have rows : ∀ cells ∈ shifts.map Offset.y, OnGrid (cells : ℚ) := by
    simpa using fun shift member => (counted shift member).2
  exact ⟨x, y, drifts_of_follow positive columns xFinite x,
    drifts_of_follow positive rows yFinite y⟩

theorem rolls_drift_home :
    let grid : Grid Bool := ⟨⟨1, 1, 0.5, .zero⟩, #[true], rfl⟩
    grid.lattice.validate = .ok () ∧ grid.lattice.origin.isFinite = true ∧
      ∃ after, Rolls grid [⟨1, 0⟩, ⟨-1, 0⟩] after ∧
        (after.lattice.origin.x == grid.lattice.origin.x + 0 * grid.lattice.resolution) = true := by
  intro grid
  have usable : grid.lattice.validate = .ok () := by decide +kernel
  have finite : grid.lattice.origin.isFinite = true := by decide +kernel
  let aside : Grid Bool := ⟨⟨1, 1, 0.5, ⟨0.5, 0⟩⟩, #[false], rfl⟩
  let after : Grid Bool := ⟨⟨1, 1, 0.5, .zero⟩, #[false], rfl⟩
  have out : grid.rollTo ⟨0.5, 0⟩ false = .ok (aside, ⟨1, 0⟩) := by decide +kernel
  have back : aside.rollTo .zero false = .ok (after, ⟨-1, 0⟩) := by decide +kernel
  have rolls : Rolls grid [⟨1, 0⟩, ⟨-1, 0⟩] after :=
    .more (.more (.none grid) out (by decide +kernel)) back (by decide +kernel)
  obtain ⟨-, -, drifts, -⟩ := rolls_drift usable finite rolls
  have near : ∀ first, first <+: [1, -1] →
      |Axis.follow (number grid.lattice.origin.x) (number grid.lattice.resolution) first| <
        2 ^ 23 * 2 ^ (-1 : ℤ) := by
    simp only [← List.mem_inits]
    decide +kernel
  obtain ⟨drift, slip⟩ := drifts.still (-1) (by decide) ⟨0, by decide +kernel⟩
    ⟨1, by decide +kernel⟩ near
  refine ⟨usable, finite, after, rolls, ?_⟩
  rw [drifts.at_once_iff 0 (by decide +kernel) (by decide +kernel), drift, slip]

/-- A window of three cells that comes back beside the place where it was. -/
theorem rolls_miss_home :
    let grid : Grid Bool := ⟨⟨3, 1, 0.1, .zero⟩, #[true, true, true], rfl⟩
    grid.lattice.validate = .ok () ∧
      ∃ after, Rolls grid [⟨3, 0⟩, ⟨-1, 0⟩, ⟨-2, 0⟩] after ∧
        (after.lattice.origin.x == grid.lattice.origin.x) = false := by
  intro grid
  let at3 : Grid Bool := ⟨⟨3, 1, 0.1, ⟨3 * 0.1, 0⟩⟩, #[false, false, false], rfl⟩
  let at2 : Grid Bool := ⟨⟨3, 1, 0.1, ⟨3 * 0.1 + -1 * 0.1, 0⟩⟩, #[false, false, false], rfl⟩
  let after : Grid Bool :=
    ⟨⟨3, 1, 0.1, ⟨3 * 0.1 + -1 * 0.1 + -2 * 0.1, 0⟩⟩, #[false, false, false], rfl⟩
  have first : grid.rollTo ⟨0.3, 0⟩ false = .ok (at3, ⟨3, 0⟩) := by decide +kernel
  have second : at3.rollTo ⟨0.2, 0⟩ false = .ok (at2, ⟨-1, 0⟩) := by decide +kernel
  have third : at2.rollTo .zero false = .ok (after, ⟨-2, 0⟩) := by decide +kernel
  have rolls : Rolls grid [⟨3, 0⟩, ⟨-1, 0⟩, ⟨-2, 0⟩] after :=
    .more (.more (.more (.none grid) first (by decide +kernel)) second (by decide +kernel)) third
      (by decide +kernel)
  exact ⟨by decide +kernel, after, rolls, by decide +kernel⟩

end Grid

end EvidenceGrid

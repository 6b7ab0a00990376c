import EvidenceGrid.Proofs.Cycle
import EvidenceGrid.Proofs.Grid.Drift
import EvidenceGrid.Proofs.Mapper.Stationary

/-!
Overlapping cycles on a lattice on which places are rounded off. A frame made for a window
that has moved since may then lie beside the one that would be made now, so the cells need
not agree with whole cycles. But as long as all moves together slip by less than what keeps
the sweeps clear of ties, every window lies in the same place of the lattice, counted in
cells, and moves by the same cells.
-/

set_option autoImplicit false

namespace EvidenceGrid

open EvidenceGrid.Binary32

namespace Axis

/-- A corner so many cells from another, save for a slip with each of its moves. -/
structure At (reach base side : ℚ) (moves : ℕ) (cells : ℤ) (corner : ℚ) : Prop where
  near : |base + cells * side| ≤ (reach + 1 / 2) * side
  close : |corner - (base + cells * side)| ≤ moves * (reach * side / 2 ^ 20)

section At

variable {reach base side corner target : ℚ} {moves later : ℕ} {cells goal : ℤ}

/-- A target well within half a cell of so many cells is counted as that. -/
theorem count_of_close (cornerGrid : OnGrid corner) (targetGrid : OnGrid target)
    (positive : 0 < side) (enough : 1 ≤ reach) (cornerNear : |corner| ≤ reach * side)
    (targetNear : |target| ≤ reach * side)
    (close : |target - corner - cells * side| < side / 2 - 5 * (reach * side) / 2 ^ 24) :
    count corner side target = cells := by
  have distance := count_distance cornerGrid targetGrid positive enough cornerNear targetNear
  apply cells_eq_of_close positive
  have triangle := abs_sub_le (count corner side target * side) (target - corner) (cells * side)
  linarith

theorem slips_le (positive : 0 < side) (few : moves * reach ≤ 2 ^ 18) :
    moves * (reach * side / 2 ^ 20) ≤ side / 4 := by
  have scaled := mul_le_mul_of_nonneg_right few positive.le
  linarith

theorem At.mono (lies : At reach base side moves cells corner) (positive : 0 < side)
    (enough : 1 ≤ reach) (more : moves ≤ later) : At reach base side later cells corner := by
  have slip : 0 ≤ reach * side / 2 ^ 20 := by positivity
  have count : (moves : ℚ) ≤ later := by exact_mod_cast more
  exact ⟨lies.near, lies.close.trans (mul_le_mul_of_nonneg_right count slip)⟩

theorem At.within (lies : At reach base side moves cells corner) (positive : 0 < side)
    (enough : 1 ≤ reach) (few : moves * reach ≤ 2 ^ 18) : |corner| ≤ 2 * reach * side := by
  have slips := slips_le positive few
  have size := abs_le_of_error lies.close
  nlinarith [lies.near]

/-- A target nearer to a place than so many moves can slip before half a cell is reached. -/
structure Toward (reach base side : ℚ) (moves : ℕ) (goal : ℤ) (target : ℚ) : Prop where
  within : |target| ≤ 2 * reach * side
  near : |base + goal * side| ≤ (reach + 1 / 2) * side
  close : |target - (base + goal * side)| < side / 2 - (moves + 1) * (reach * side / 2 ^ 20)

theorem At.toward (lies : At reach base side (moves + 1) goal target) (positive : 0 < side)
    (enough : 1 ≤ reach) (few : (moves + 1) * reach < 2 ^ 18) :
    Toward reach base side moves goal target := by
  have scaled := mul_lt_mul_of_pos_right few positive
  have close := lies.close
  push_cast at close
  exact ⟨lies.within positive enough (by push_cast; exact few.le), lies.near, by linarith⟩

/-- A target clear of ties, by its own place. -/
theorem toward_of_clear (baseGrid : OnGrid base) (targetGrid : OnGrid target) (positive : 0 < side)
    (enough : 1 ≤ reach) (baseNear : |base| ≤ reach * side) (targetNear : |target| ≤ reach * side)
    (more : moves ≤ later)
    (clear : ClearOfTies ((later + 1) * reach * side / 2 ^ 20) (target - base) side) :
    Toward reach base side moves (count base side target) target := by
  have room : 0 < reach * side := mul_pos (by linarith) positive
  have distance := count_distance baseGrid targetGrid positive enough baseNear targetNear
  have none : (0 : ℚ) ≤ moves := Nat.cast_nonneg moves
  have count : (moves : ℚ) ≤ later := by exact_mod_cast more
  have slips : (moves + 1) * (reach * side) ≤ (later + 1) * (reach * side) :=
    mul_le_mul_of_nonneg_right (by linarith) room.le
  have margin : 5 * (reach * side) / 2 ^ 24 ≤ (later + 1) * reach * side / 2 ^ 20 := by nlinarith
  have settled := count_nearest margin distance clear
  rw [sub_sub] at settled
  have size := abs_le_of_error (abs_sub_comm target _ ▸ settled.le)
  exact ⟨by linarith, by linarith, by linarith⟩

/-- A target near a place leads there, from wherever its cells are counted. -/
theorem At.moved (lies : At reach base side moves cells corner)
    (toward : Toward reach base side moves goal target) (positive : 0 < side)
    (enough : 1 ≤ reach) (few : moves * reach ≤ 2 ^ 18) (sideGrid : OnGrid side)
    (cornerGrid : OnGrid corner) (targetGrid : OnGrid target) :
    count corner side target = goal - cells ∧
      At reach base side (moves + 1) goal (place corner side target) := by
  have cornerNear := lies.within positive enough few
  have enoughTwice : 1 ≤ 2 * reach := by linarith
  have room : 0 < reach * side := mul_pos (by linarith) positive
  have counted : count corner side target = goal - cells := by
    apply count_of_close cornerGrid targetGrid positive enoughTwice cornerNear toward.within
    have triangle := abs_sub (target - (base + goal * side)) (corner - (base + cells * side))
    have same : target - (base + goal * side) - (corner - (base + cells * side)) =
        target - corner - ((goal - cells : ℤ) : ℚ) * side := by
      push_cast
      ring
    rw [same] at triangle
    linarith [lies.close, toward.close]
  refine ⟨counted, toward.near, ?_⟩
  have drifted := place_drift sideGrid cornerGrid targetGrid positive enoughTwice cornerNear
    toward.within
  rw [counted] at drifted
  have triangle := abs_add_le
    (place corner side target - (corner + ((goal - cells : ℤ) : ℚ) * side))
    (corner - (base + cells * side))
  have same : place corner side target - (corner + ((goal - cells : ℤ) : ℚ) * side) +
      (corner - (base + cells * side)) = place corner side target - (base + goal * side) := by
    push_cast
    ring
  rw [same] at triangle
  push_cast
  linarith [lies.close]

end At

end Axis

namespace Lattice

/-- A reach within which so many moves slip by less than a quarter of a cell, and nothing
overflows. -/
structure Roomy (lattice : Lattice) (reach : ℚ) (moves : ℕ) : Prop where
  enough : 1 ≤ reach
  few : (moves + 1) * reach < 2 ^ 18
  small : reach * number lattice.resolution ≤ 2 ^ 125
  near : lattice.Within reach lattice.origin

/-- A corner so many cells from that of a lattice, save for a slip with each of its moves. -/
structure At (lattice : Lattice) (reach : ℚ) (moves : ℕ) (place : Offset) (corner : Point) :
    Prop where
  finite : corner.isFinite = true
  x : Axis.At reach (number lattice.origin.x) (number lattice.resolution) moves place.x
    (number corner.x)
  y : Axis.At reach (number lattice.origin.y) (number lattice.resolution) moves place.y
    (number corner.y)

structure Toward (lattice : Lattice) (reach : ℚ) (moves : ℕ) (goal : Offset) (target : Point) :
    Prop where
  finite : target.isFinite = true
  x : Axis.Toward reach (number lattice.origin.x) (number lattice.resolution) moves goal.x
    (number target.x)
  y : Axis.Toward reach (number lattice.origin.y) (number lattice.resolution) moves goal.y
    (number target.y)

theorem Roomy.few_of_le {lattice : Lattice} {reach : ℚ} {moves later : ℕ}
    (roomy : lattice.Roomy reach later) (more : moves ≤ later) :
    (moves + 1) * reach < 2 ^ 18 := by
  have count : (moves : ℚ) ≤ later := by exact_mod_cast more
  nlinarith [roomy.few, roomy.enough]

section Axis

variable {reach base : ℚ} {corner side target : Float32} {moves : ℕ} {cells goal : ℤ}

theorem axis_moved (sideFinite : side.isFinite = true) (positive : 0 < number side)
    (enough : 1 ≤ reach) (few : (moves + 1) * reach < 2 ^ 18)
    (small : reach * number side ≤ 2 ^ 125) (cornerFinite : corner.isFinite = true)
    (targetFinite : target.isFinite = true)
    (lies : Axis.At reach base (number side) moves cells (number corner))
    (toward : Axis.Toward reach base (number side) moves goal (number target)) :
    (axisSnap corner side target).isFinite = true ∧
      number (axisCells corner side target) = (goal - cells : ℤ) ∧
      Axis.At reach base (number side) (moves + 1) goal (number (axisSnap corner side target)) := by
  have none : (0 : ℚ) ≤ moves := Nat.cast_nonneg moves
  have slips : moves * reach ≤ 2 ^ 18 := by nlinarith
  have within : reach ≤ 2 ^ 18 := by nlinarith
  have cornerNear := lies.within positive enough slips
  have finite := axis_snap_finite sideFinite positive cornerFinite targetFinite
    (by linarith : 1 ≤ 2 * reach) (by linarith) (by linarith) cornerNear toward.within
  obtain ⟨counted, reached⟩ := lies.moved toward positive enough slips (on_grid_number side)
    (on_grid_number corner) (on_grid_number target)
  refine ⟨finite, ?_, ?_⟩
  · rw [axis_cells_value sideFinite positive (finite_of_axis_snap finite).2.2, counted]
  · rwa [axis_snap_value sideFinite positive finite]

theorem confined_shift_same {low high cells other : Float32} (lowFinite : low.isFinite = true)
    (highFinite : high.isFinite = true) (finite : cells.isFinite = true)
    (otherFinite : other.isFinite = true) (same : number cells = number other) :
    toSigned (confine low high cells) = toSigned (confine low high other) := by
  obtain ⟨heldFinite, held⟩ := confine_value lowFinite highFinite finite
  obtain ⟨otherHeldFinite, otherHeld⟩ := confine_value lowFinite highFinite otherFinite
  rw [to_signed_value heldFinite, to_signed_value otherHeldFinite, held, otherHeld, same]

end Axis

section At

variable {lattice : Lattice} {reach : ℚ} {moves later : ℕ} {place goal : Offset}
  {corner target : Point}

theorem at_origin (finite : lattice.origin.isFinite = true) (positive : 0 < number lattice.resolution)
    (near : lattice.Within reach lattice.origin) : lattice.At reach 0 .zero lattice.origin := by
  have axis {base : ℚ} (within : |base| ≤ reach * number lattice.resolution) :
      Axis.At reach base (number lattice.resolution) 0 0 base := by
    constructor
    · rw [Int.cast_zero, zero_mul, add_zero]
      linarith
    · simp
  exact ⟨finite, axis near.1, axis near.2⟩

theorem At.mono (lies : lattice.At reach moves place corner) (usable : lattice.Usable)
    (enough : 1 ≤ reach) (more : moves ≤ later) : lattice.At reach later place corner :=
  ⟨lies.finite, lies.x.mono usable.positive enough more, lies.y.mono usable.positive enough more⟩

theorem At.toward (lies : lattice.At reach (moves + 1) goal target) (usable : lattice.Usable)
    (roomy : lattice.Roomy reach later) (more : moves ≤ later) :
    lattice.Toward reach moves goal target := by
  have few := roomy.few_of_le more
  exact ⟨lies.finite, lies.x.toward usable.positive roomy.enough few,
    lies.y.toward usable.positive roomy.enough few⟩

theorem At.moved (lies : lattice.At reach moves place corner)
    (toward : lattice.Toward reach moves goal target) (usable : lattice.Usable)
    (roomy : lattice.Roomy reach later) (more : moves ≤ later) :
    lattice.At reach (moves + 1) goal (Lattice.snap { lattice with origin := corner } target) ∧
      Lattice.Unclamped { lattice with origin := corner } target
        ⟨goal.x - place.x, goal.y - place.y⟩ := by
  have few := roomy.few_of_le more
  obtain ⟨cornerX, cornerY⟩ := (finite_iff _).mp lies.finite
  obtain ⟨targetX, targetY⟩ := (finite_iff _).mp toward.finite
  obtain ⟨xFinite, xCells, x⟩ := axis_moved usable.finite usable.positive roomy.enough few
    roomy.small cornerX targetX lies.x toward.x
  obtain ⟨yFinite, yCells, y⟩ := axis_moved usable.finite usable.positive roomy.enough few
    roomy.small cornerY targetY lies.y toward.y
  exact ⟨⟨(finite_iff _).mpr ⟨xFinite, yFinite⟩, x, y⟩, xCells, yCells⟩

end At

theorem unmoved_of_no_shift {lattice : Lattice} {target : Point} {move : Offset}
    (usable : lattice.Usable) (finite : (lattice.cellsTo target).isFinite = true)
    (whole : lattice.Unclamped target move) (still : lattice.shiftTo target = .zero) :
    move = .zero := by
  obtain ⟨xFinite, yFinite⟩ := (finite_iff _).mp finite
  have none := (shift_eq_zero_iff usable finite).mp still
  have xCells := axis_cells_value usable.finite usable.positive xFinite
  have yCells := axis_cells_value usable.finite usable.positive yFinite
  rw [show Axis.count _ _ _ = 0 from congrArg Offset.x none] at xCells
  rw [show Axis.count _ _ _ = 0 from congrArg Offset.y none] at yCells
  exact Offset.eq_of_coordinates (Int.cast_injective (whole.1.symm.trans xCells))
    (Int.cast_injective (whole.2.symm.trans yCells))

theorem shift_same {first second : Lattice} {target other : Point} {move : Offset}
    (width : first.width = second.width) (height : first.height = second.height)
    (finite : (first.cellsTo target).isFinite = true)
    (otherFinite : (second.cellsTo other).isFinite = true) (whole : first.Unclamped target move)
    (otherWhole : second.Unclamped other move) : first.shiftTo target = second.shiftTo other := by
  obtain ⟨xFinite, yFinite⟩ := (finite_iff _).mp finite
  obtain ⟨otherX, otherY⟩ := (finite_iff _).mp otherFinite
  have held (side : UInt32) := of_uint32_finite side
  simp only [shiftTo, Point.toOffset, Offset.mk.injEq, width, height]
  exact ⟨confined_shift_same (neg_value (held _)).1 (held _) xFinite otherX
      (whole.1.trans otherWhole.1.symm),
    confined_shift_same (neg_value (held _)).1 (held _) yFinite otherY
      (whole.2.trans otherWhole.2.symm)⟩

end Lattice

namespace Mapper

/-- The window that a sweep wants is near, and farther from the ties than so many moves slip. -/
def WantsApart (mapper : Mapper) (reach : ℚ) (moves : ℕ) (sweep : Sweep) : Prop :=
  ∀ placement, sweep.placement = some placement → placement.isFinite = true →
    (mapper.wantedCorner placement.center.ground).isFinite = true ∧
    mapper.lattice.Within reach (mapper.wantedCorner placement.center.ground) ∧
    mapper.lattice.ClearOfTies ((moves + 1) * reach) (mapper.wantedCorner placement.center.ground)

/-- The place of a window around a center, in cells from the corner. -/
def placeOf (mapper : Mapper) (center : Pose) : Offset :=
  mapper.lattice.counts (mapper.wantedCorner center.ground)

/-- By how many cells a cycle has moved the window, or why it was refused. -/
def moveOf (result : Except Fault Publication) : Except Fault (Option Offset) :=
  result.map fun publication => publication.tally.fusion.map FusionTally.shift

section Places

variable {mapper now other : Mapper} {reach : ℚ} {moves total : ℕ} {place goal : Offset}
  {sweep : Sweep} {frame alike : Frame}

theorem wants_toward (sound : mapper.Sound) (roomy : mapper.lattice.Roomy reach total)
    (more : moves ≤ total) (apart : mapper.WantsApart reach total sweep) {placement : Placement}
    (placed : sweep.placement = some placement) (finite : placement.isFinite = true) :
    mapper.lattice.Toward reach moves (mapper.placeOf placement.center)
      (mapper.wantedCorner placement.center.ground) := by
  obtain ⟨wantedFinite, near, clear⟩ := apart placement placed finite
  have toward {base target : Float32}
      (baseNear : |number base| ≤ reach * number mapper.lattice.resolution)
      (targetNear : |number target| ≤ reach * number mapper.lattice.resolution) :=
    Axis.toward_of_clear (on_grid_number base) (on_grid_number target) sound.usable.positive
      roomy.enough baseNear targetNear more
  exact ⟨wantedFinite, toward roomy.near.1 near.1 clear.1, toward roomy.near.2 near.2 clear.2⟩

/-- Wherever the window was when a frame was made for it, the frame lies in the sweep's place. -/
theorem frame_at (sound : mapper.Sound) (persistent : mapper.settings.singleFrame = false)
    (roomy : mapper.lattice.Roomy reach total) (more : moves ≤ total) {framing : Framing}
    (fits : framing.For (mapper.lattice.At reach moves place) mapper)
    (apart : mapper.WantsApart reach total sweep) {placement : Placement}
    (placed : sweep.placement = some placement) (made : framing.frame sweep = .ok frame) :
    frame.grid.lattice = { mapper.lattice with origin := frame.grid.lattice.origin } ∧
      mapper.lattice.At reach (moves + 1) (mapper.placeOf placement.center)
        frame.grid.lattice.origin := by
  obtain ⟨finite, latticeEq⟩ := fits.frame_lattice sound persistent placed made
  have toward := wants_toward sound roomy more apart placed finite
  rw [latticeEq]
  exact ⟨rfl, (fits.corner.moved toward sound.usable roomy more).1⟩

/-- A mapper takes in every frame that lies in a place, and its window goes there. -/
theorem integrate_at (sound : mapper.Sound) (persistent : mapper.settings.singleFrame = false)
    (roomy : mapper.lattice.Roomy reach total) (more : moves ≤ total) (nowSound : now.Sound)
    (fits : now.framing.For (mapper.lattice.At reach moves place) mapper)
    (cells : frame.grid.lattice = { mapper.lattice with origin := frame.grid.lattice.origin })
    (lies : mapper.lattice.At reach (moves + 1) goal frame.grid.lattice.origin) :
    mapper.lattice.At reach (moves + 1) goal (now.integrate frame).1.lattice.origin ∧
      moveOf (now.integrate frame).2 = .ok (some (now.lattice.shiftTo frame.grid.lattice.origin)) ∧
      (now.lattice.cellsTo frame.grid.lattice.origin).isFinite = true ∧
      now.lattice.Unclamped frame.grid.lattice.origin ⟨goal.x - place.x, goal.y - place.y⟩ := by
  have latticeEq : now.lattice = { mapper.lattice with origin := now.lattice.origin } :=
    fits.anchor_eq
  have corner : mapper.lattice.At reach moves place now.lattice.origin := fits.corner
  obtain ⟨reached, whole⟩ := corner.moved (lies.toward sound.usable roomy more) sound.usable
    roomy more
  rw [← latticeEq] at reached whole
  have finite := reached.finite
  have cellsFinite := (Lattice.finite_of_snap finite).2.2
  rcases BeliefMap.update_spec nowSound.model frame.grid with
    ⟨beliefs, tally, updated, fused⟩ | ⟨fault, -, refusal⟩
  · have nowPersistent : now.settings.singleFrame = false := by
      rw [show now.settings = mapper.settings from fits.settings_eq, persistent]
    obtain ⟨publication, ran, counted⟩ := integrate_fused nowPersistent updated
    rw [ran]
    refine ⟨?_, ?_, cellsFinite, whole⟩
    · change mapper.lattice.At reach (moves + 1) goal beliefs.grid.lattice.origin
      rw [fused.lattice_eq]
      simp only
      split_ifs with still
      · -- A window that is not moved was in the goal's place before.
        rw [fused.shift_eq] at still
        have none := Lattice.unmoved_of_no_shift nowSound.usable cellsFinite whole still
        have same : goal = place := by
          apply Offset.eq_of_coordinates
          · exact sub_eq_zero.mp (congrArg Offset.x none)
          · exact sub_eq_zero.mp (congrArg Offset.y none)
        rw [same]
        exact corner.mono sound.usable roomy.enough (Nat.le_succ moves)
      · exact reached
    · change Except.ok (publication.tally.fusion.map FusionTally.shift) = _
      rw [counted, Option.map_some, fused.shift_eq]
      rfl
  · rcases refusal with ⟨unlike, -⟩ | ⟨-, infinite, -⟩
    · have shape := BeliefMap.same_shape_moved nowSound.usable frame.grid.lattice.origin
      rw [latticeEq] at shape
      change frame.grid.lattice.sameShape now.lattice = false at unlike
      rw [cells, latticeEq, shape] at unlike
      cases unlike
    · change (now.lattice.snap frame.grid.lattice.origin).isFinite = false at infinite
      rw [finite] at infinite
      cases infinite

/-- Windows in one place take in frames of one place by one move. -/
theorem integrate_alike (sound : mapper.Sound) (persistent : mapper.settings.singleFrame = false)
    (roomy : mapper.lattice.Roomy reach total) (more : moves ≤ total)
    (nowSound : now.Sound) (fits : now.framing.For (mapper.lattice.At reach moves place) mapper)
    (otherSound : other.Sound)
    (otherFits : other.framing.For (mapper.lattice.At reach moves place) mapper)
    (cells : frame.grid.lattice = { mapper.lattice with origin := frame.grid.lattice.origin })
    (lies : mapper.lattice.At reach (moves + 1) goal frame.grid.lattice.origin)
    (alikeCells :
      alike.grid.lattice = { mapper.lattice with origin := alike.grid.lattice.origin })
    (alikeLies : mapper.lattice.At reach (moves + 1) goal alike.grid.lattice.origin) :
    (now.integrate frame).1.framing.For (mapper.lattice.At reach (moves + 1) goal) mapper ∧
      (other.integrate alike).1.framing.For (mapper.lattice.At reach (moves + 1) goal) mapper ∧
      moveOf (now.integrate frame).2 = moveOf (other.integrate alike).2 := by
  obtain ⟨reached, moved, finite, whole⟩ :=
    integrate_at sound persistent roomy more nowSound fits cells lies
  obtain ⟨otherReached, otherMoved, otherFinite, otherWhole⟩ :=
    integrate_at sound persistent roomy more otherSound otherFits alikeCells alikeLies
  refine ⟨fits.integrate nowSound reached, otherFits.integrate otherSound otherReached, ?_⟩
  have latticeEq : now.lattice = { mapper.lattice with origin := now.lattice.origin } :=
    fits.anchor_eq
  have otherEq : other.lattice = { mapper.lattice with origin := other.lattice.origin } :=
    otherFits.anchor_eq
  have width : now.lattice.width = other.lattice.width := by rw [latticeEq, otherEq]
  have height : now.lattice.height = other.lattice.height := by rw [latticeEq, otherEq]
  rw [moved, otherMoved,
    Lattice.shift_same width height finite otherFinite whole otherWhole]

end Places

end Mapper

namespace Shared

/-- A schedule has brought the window where whole cycles bring it, counted in cells, and by
the same moves: the same cycles were refused, and the others have moved it alike. -/
structure SamePlaces (mapper : Mapper) (reach : ℚ) (sweeps : List Sweep) (schedule : List Nat) :
    Prop where
  places : ∃ place,
    mapper.lattice.At reach ((start mapper sweeps).finished schedule).length place
      ((start mapper sweeps).run schedule).mapper.lattice.origin ∧
    mapper.lattice.At reach ((start mapper sweeps).finished schedule).length place
      (mapper.processAll
        (((start mapper sweeps).finished schedule).filterMap (sweeps[·]?))).1.lattice.origin
  cells_eq : ((start mapper sweeps).run schedule).mapper.lattice =
    { (mapper.processAll
        (((start mapper sweeps).finished schedule).filterMap (sweeps[·]?))).1.lattice with
      origin := ((start mapper sweeps).run schedule).mapper.lattice.origin }
  moves_eq : (((start mapper sweeps).finished schedule).map
      ((start mapper sweeps).run schedule).result?).map (Option.map Mapper.moveOf) =
    (mapper.processAll (((start mapper sweeps).finished schedule).filterMap
      (sweeps[·]?))).2.map (fun result => some (Mapper.moveOf result))

/-- What a schedule and its whole cycles keep in step, with as many moves as cycles finished. -/
structure InStep (mapper : Mapper) (reach : ℚ) (sweeps : List Sweep) (moves : ℕ)
    (shared : Shared) (results : List (Option (Except Fault Publication)))
    (serial : Mapper × List (Except Fault Publication)) : Prop where
  tracks : Tracks (fun corner => ∃ place, mapper.lattice.At reach moves place corner) mapper
    sweeps shared
  sound : serial.1.Sound
  places : ∃ place, shared.mapper.framing.For (mapper.lattice.At reach moves place) mapper ∧
    serial.1.framing.For (mapper.lattice.At reach moves place) mapper
  moves_eq : results.map (Option.map Mapper.moveOf) =
    serial.2.map fun result => some (Mapper.moveOf result)

section InStep

variable {mapper : Mapper} {reach : ℚ} {sweeps : List Sweep} {moves : ℕ} {shared : Shared}
  {results : List (Option (Except Fault Publication))}
  {serial : Mapper × List (Except Fault Publication)} {turn : Nat}

theorem in_step_refused (sound : mapper.Sound) (enough : 1 ≤ reach)
    (inStep : InStep mapper reach sweeps moves shared results serial) {sweep : Sweep}
    {framing : Framing} {corners : Point → Prop} {fault : Fault}
    (unframed : ∀ frame, shared.cycles[turn]? ≠ some (.framed frame))
    (fits : framing.For corners mapper) (failed : framing.frame sweep = .error fault)
    (still : (shared.step turn).mapper = shared.mapper) :
    InStep mapper reach sweeps (moves + 1) (shared.step turn) (results ++ [some (.error fault)])
      ((serial.1.process sweep).1, serial.2 ++ [(serial.1.process sweep).2]) := by
  have refused : serial.1.frame sweep = .error fault :=
    Framing.error_of_error (fits.usable sound) failed
  have processed : serial.1.process sweep = (serial.1, .error fault) := by
    rw [Mapper.process, refused]
  have wider (place : Offset) (corner : Point) (lies : mapper.lattice.At reach moves place corner) :
      mapper.lattice.At reach (moves + 1) place corner :=
    lies.mono sound.usable enough (Nat.le_succ moves)
  obtain ⟨place, fitsNow, fitsSerial⟩ := inStep.places
  rw [processed]
  constructor
  · apply tracks_step inStep.tracks
    · rintro corner ⟨place, lies⟩
      exact ⟨place, wider place corner lies⟩
    · intro frame framed
      exact absurd framed (unframed frame)
  · exact inStep.sound
  · exact ⟨place, still ▸ fitsNow.wider (wider place), fitsSerial.wider (wider place)⟩
  · rw [List.map_append, List.map_append, inStep.moves_eq]
    rfl

theorem in_step_taken (sound : mapper.Sound) (persistent : mapper.settings.singleFrame = false)
    {total : ℕ} (roomy : mapper.lattice.Roomy reach total) (more : moves ≤ total)
    (inStep : InStep mapper reach sweeps moves shared results serial) {sweep : Sweep}
    (apart : mapper.WantsApart reach total sweep) {framing : Framing} {frame : Frame}
    (fits : framing.For (fun corner => ∃ place, mapper.lattice.At reach moves place corner) mapper)
    (framed : shared.cycles[turn]? = some (.framed frame)) (made : framing.frame sweep = .ok frame)
    (moved : (shared.step turn).mapper = (shared.mapper.integrate frame).1) :
    InStep mapper reach sweeps (moves + 1) (shared.step turn)
      (results ++ [some (shared.mapper.integrate frame).2])
      ((serial.1.process sweep).1, serial.2 ++ [(serial.1.process sweep).2]) := by
  obtain ⟨placement, placed, -⟩ := Framing.placed_of_frame made
  obtain ⟨now, madeNow⟩ : ∃ now, serial.1.frame sweep = .ok now :=
    Framing.ok_of_ok inStep.sound.usable made
  have processed : serial.1.process sweep = serial.1.integrate now := by
    rw [Mapper.process, madeNow]
  obtain ⟨place, fitsNow, fitsSerial⟩ := inStep.places
  obtain ⟨old, oldLies⟩ := fits.corner
  have oldFits : framing.For (mapper.lattice.At reach moves old) mapper :=
    ⟨fits.settings_eq, oldLies, fits.anchor_eq⟩
  obtain ⟨cells, lies⟩ := Mapper.frame_at sound persistent roomy more oldFits apart placed made
  obtain ⟨nowCells, nowLies⟩ :=
    Mapper.frame_at sound persistent roomy more fitsSerial apart placed madeNow
  obtain ⟨reached, serialReached, same⟩ := Mapper.integrate_alike sound persistent roomy more
    inStep.tracks.sound fitsNow inStep.sound fitsSerial cells lies nowCells nowLies
  rw [processed]
  constructor
  · apply tracks_step inStep.tracks
    · rintro corner ⟨place, lies⟩
      exact ⟨place, lies.mono sound.usable roomy.enough (Nat.le_succ moves)⟩
    · intro other otherFramed
      rw [framed] at otherFramed
      cases otherFramed
      exact ⟨_, reached.corner⟩
  · exact Mapper.sound_integrate inStep.sound now
  · exact ⟨_, moved ▸ reached, serialReached⟩
  · rw [List.map_append, List.map_append, inStep.moves_eq, List.map_singleton, Option.map_some,
      same, List.map_singleton]

/-- While no sweep wants its window near a tie, every step keeps a schedule and its whole cycles
in step. -/
theorem in_step_run (sound : mapper.Sound) (persistent : mapper.settings.singleFrame = false)
    (roomy : mapper.lattice.Roomy reach sweeps.length)
    (apart : ∀ sweep ∈ sweeps, mapper.WantsApart reach sweeps.length sweep)
    (schedule : List Nat) :
    InStep mapper reach sweeps ((start mapper sweeps).finished schedule).length
      ((start mapper sweeps).run schedule)
      (((start mapper sweeps).finished schedule).map ((start mapper sweeps).run schedule).result?)
      (mapper.processAll (((start mapper sweeps).finished schedule).filterMap (sweeps[·]?))) := by
  induction schedule using List.reverseRecOn with
  | nil =>
      have origin := Lattice.at_origin sound.finite sound.usable.positive roomy.near
      exact ⟨tracks_start sound ⟨.zero, origin⟩, sound,
        ⟨.zero, ⟨rfl, origin, rfl⟩, ⟨rfl, origin, rfl⟩⟩, rfl⟩
  | append_singleton schedule turn ih =>
      have more : ((start mapper sweeps).finished schedule).length ≤ sweeps.length :=
        finished_length_le sound schedule
      rw [run_snoc]
      cases ih.tracks.turn turn with
      | idle unframed ends still =>
          rw [finished_snoc, ends, if_neg Bool.false_ne_true, List.append_nil, results_kept]
          refine ⟨tracks_step ih.tracks (fun _ kept => kept) ?_, ih.sound, ?_, ih.moves_eq⟩
          · intro frame framed
            exact absurd framed (unframed frame)
          · rw [still]
            exact ih.places
      | refused sweep framing fault unframed given fits failed ends still result =>
          rw [serial_snoc mapper given ends, results_snoc ends result, finished_snoc, if_pos ends,
            List.length_append]
          exact in_step_refused sound roomy.enough ih unframed fits failed still
      | taken sweep framing frame framed given fits made ends moved result =>
          rw [serial_snoc mapper given ends, results_snoc ends result, finished_snoc, if_pos ends,
            List.length_append]
          exact in_step_taken sound persistent roomy more ih
            (apart sweep (List.mem_of_getElem? given)) fits framed made moved

theorem same_places (sound : mapper.Sound) (persistent : mapper.settings.singleFrame = false)
    (roomy : mapper.lattice.Roomy reach sweeps.length)
    (apart : ∀ sweep ∈ sweeps, mapper.WantsApart reach sweeps.length sweep)
    (schedule : List Nat) : SamePlaces mapper reach sweeps schedule := by
  have inStep := in_step_run sound persistent roomy apart schedule
  obtain ⟨place, fits, fitsSerial⟩ := inStep.places
  refine ⟨⟨place, fits.corner, fitsSerial.corner⟩, ?_, inStep.moves_eq⟩
  have cells : ((start mapper sweeps).run schedule).mapper.lattice = _ := fits.anchor_eq
  have serialCells : (mapper.processAll _).1.lattice = _ := fitsSerial.anchor_eq
  rw [serialCells]
  exact cells

end InStep

end Shared

end EvidenceGrid

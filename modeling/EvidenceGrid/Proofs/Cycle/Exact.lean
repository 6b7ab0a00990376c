import EvidenceGrid.Proofs.Cycle.Rounded
import EvidenceGrid.Proofs.Lattice.Exact

/-!
Overlapping cycles on a lattice on which nothing is rounded off. As long as no sweep
wants its window half-way between two places, a frame lies in one place whichever corner
it was made for, so every schedule comes to what whole cycles come to. The window stays
on the lattice that it began on, since its corner is never the zero of negative sign. The
main statement has what holds on every lattice beside it.
-/

set_option autoImplicit false

namespace EvidenceGrid

open EvidenceGrid.Binary32

namespace Lattice

/-- Nothing within reach of the world's origin is rounded off: the corner and the cells
count units of a power of two, and few enough of them. -/
structure Exact (power : ℤ) (reach : ℚ) (lattice : Lattice) : Prop where
  ceiling : power ≤ 103
  fine : Axis.Fine power reach (number lattice.resolution)
  x : Axis.Fits power reach (number lattice.resolution) (number lattice.origin.x)
  y : Axis.Fits power reach (number lattice.resolution) (number lattice.origin.y)

/-- Neither coordinate is the zero of negative sign. -/
def Signed (point : Point) : Prop := point.x ≠ -0 ∧ point.y ≠ -0

def Beside (power : ℤ) (reach : ℚ) (lattice : Lattice) (corner : Point) : Prop :=
  AxisBeside power reach lattice.resolution lattice.origin.x corner.x ∧
    AxisBeside power reach lattice.resolution lattice.origin.y corner.y

section Beside

variable {power : ℤ} {reach : ℚ} {lattice : Lattice} {corner target : Point}

theorem beside_self (exact : lattice.Exact power reach) (finite : lattice.origin.isFinite = true)
    (signed : Signed lattice.origin) : lattice.Beside power reach lattice.origin := by
  obtain ⟨xFinite, yFinite⟩ := (finite_iff _).mp finite
  exact ⟨⟨xFinite, signed.1, exact.x, 0, by simp⟩, ⟨yFinite, signed.2, exact.y, 0, by simp⟩⟩

theorem snap_signed (signed : Signed corner) :
    Signed (Lattice.snap { lattice with origin := corner } target) :=
  ⟨axis_snap_signed signed.1, axis_snap_signed signed.2⟩

theorem snap_beside (usable : lattice.Usable) (exact : lattice.Exact power reach)
    (self : lattice.Beside power reach lattice.origin)
    (beside : lattice.Beside power reach corner) (finite : target.isFinite = true)
    (near : lattice.Within reach target) (clear : lattice.ClearOfTies reach target) :
    lattice.Beside power reach (Lattice.snap { lattice with origin := corner } target) ∧
      Lattice.snap { lattice with origin := corner } target = lattice.snap target := by
  obtain ⟨xFinite, yFinite⟩ := (finite_iff _).mp finite
  obtain ⟨x, sameX⟩ := axis_snap_beside exact.ceiling exact.fine usable.finite self.1 beside.1
    xFinite near.1 clear.1
  obtain ⟨y, sameY⟩ := axis_snap_beside exact.ceiling exact.fine usable.finite self.2 beside.2
    yFinite near.2 clear.2
  refine ⟨⟨x, y⟩, ?_⟩
  change (⟨axisSnap corner.x lattice.resolution target.x,
    axisSnap corner.y lattice.resolution target.y⟩ : Point) = _
  rw [sameX, sameY]
  rfl

theorem snap_back (usable : lattice.Usable) (exact : lattice.Exact power reach)
    (beside : lattice.Beside power reach corner)
    (targetBeside : lattice.Beside power reach target) :
    lattice.Beside power reach (Lattice.snap { lattice with origin := corner } target) :=
  ⟨axis_snap_back exact.ceiling exact.fine usable.finite beside.1 targetBeside.1,
    axis_snap_back exact.ceiling exact.fine usable.finite beside.2 targetBeside.2⟩

end Beside

end Lattice

namespace Mapper

theorem corner_integrate {mapper : Mapper} (sound : mapper.Sound) (frame : Frame) :
    (mapper.integrate frame).1.lattice.origin = mapper.lattice.origin ∨
      (mapper.integrate frame).1.lattice.origin =
        mapper.lattice.snap frame.grid.lattice.origin := by
  rcases integrate_cases mapper frame with
    ⟨beliefs, tally, publication, updated, ran⟩ | ⟨result, ran⟩
  · have latticeEq := (BeliefMap.fused_of_update sound.model updated).lattice_eq
    rw [ran]
    change beliefs.grid.lattice.origin = _ ∨ beliefs.grid.lattice.origin = _
    rw [latticeEq]
    simp only
    split_ifs
    · exact Or.inl rfl
    · exact Or.inr rfl
  · rw [ran]
    exact Or.inl rfl

theorem signed_call {mapper : Mapper} (sound : mapper.Sound)
    (signed : Lattice.Signed mapper.lattice.origin) (call : Call) :
    Lattice.Signed (mapper.call call).1.lattice.origin := by
  rcases call_cases mapper call with ⟨frame, -, ran⟩ | ⟨-, ran⟩ | ⟨fault, -, ran⟩
  · rw [ran]
    simp only
    rcases corner_integrate sound frame with same | moved
    · rwa [same]
    · rw [moved]
      exact Lattice.snap_signed signed
  · rw [ran]
    exact signed
  · rw [ran]
    exact signed

theorem signed_of_reachable {mapper : Mapper} (reachable : mapper.Reachable) :
    Lattice.Signed mapper.lattice.origin := by
  obtain ⟨settings, start, calls, made, rfl⟩ := reachable
  induction calls using List.reverseRecOn with
  | nil =>
      obtain ⟨lattice, beliefs, passed, latticeMade, begun, rfl⟩ := of_settings_spec made
      obtain ⟨usable, -, atZero⟩ := Settings.lattice_spec latticeMade
      obtain ⟨fresh, started, -, latticeEq, -⟩ :=
        BeliefMap.empty_ok usable (Settings.model_of_validate passed)
      rw [begun] at started
      cases started
      change Lattice.Signed beliefs.grid.lattice.origin
      rw [latticeEq, atZero]
      constructor <;> decide +kernel
  | append_singleton calls call ih =>
      rw [run_snoc]
      exact signed_call (sound_of_reachable ⟨settings, start, calls, made, rfl⟩) ih call

/-- The window that a sweep wants is near, and not half-way between two places. -/
def WantsClearly (mapper : Mapper) (reach : ℚ) (sweep : Sweep) : Prop :=
  ∀ placement, sweep.placement = some placement → placement.isFinite = true →
    (mapper.wantedCorner placement.center.ground).isFinite = true ∧
    mapper.lattice.Within reach (mapper.wantedCorner placement.center.ground) ∧
    mapper.lattice.ClearOfTies reach (mapper.wantedCorner placement.center.ground)

section Exact

variable {mapper : Mapper} {power : ℤ} {reach : ℚ} {sweeps : List Sweep}

theorem frame_beside (sound : mapper.Sound) (persistent : mapper.settings.singleFrame = false)
    (exact : mapper.lattice.Exact power reach)
    (self : mapper.lattice.Beside power reach mapper.lattice.origin) {framing : Framing}
    (fits : framing.For (mapper.lattice.Beside power reach) mapper) {sweep : Sweep} {frame : Frame}
    (clearly : mapper.WantsClearly reach sweep) (made : framing.frame sweep = .ok frame) :
    mapper.lattice.Beside power reach frame.grid.lattice.origin ∧
      ∃ placement, sweep.placement = some placement ∧
        frame.grid.lattice.origin = mapper.frameCorner placement.center.ground := by
  obtain ⟨placement, placed, -⟩ := Framing.placed_of_frame made
  obtain ⟨finite, latticeEq⟩ := fits.frame_lattice sound persistent placed made
  obtain ⟨wantedFinite, near, clear⟩ := clearly placement placed finite
  obtain ⟨beside, corner⟩ := Lattice.snap_beside sound.usable exact self fits.corner wantedFinite
    near clear
  rw [latticeEq]
  exact ⟨beside, placement, placed, corner⟩

theorem keeps_beside (sound : mapper.Sound) (persistent : mapper.settings.singleFrame = false)
    (exact : mapper.lattice.Exact power reach)
    (self : mapper.lattice.Beside power reach mapper.lattice.origin)
    (clearly : ∀ sweep ∈ sweeps, mapper.WantsClearly reach sweep) :
    mapper.Keeps (mapper.lattice.Beside power reach) sweeps := by
  intro now framing sweep frame nowSound map fits given made
  obtain ⟨beside, -⟩ := frame_beside sound persistent exact self fits (clearly sweep given) made
  rcases corner_integrate nowSound frame with same | moved
  · rw [same]
    exact map.corner
  · have cells : now.lattice = { mapper.lattice with origin := now.lattice.origin } := map.anchor_eq
    rw [moved, cells]
    exact Lattice.snap_back sound.usable exact map.corner beside

theorem timely_of_exact (sound : mapper.Sound) (persistent : mapper.settings.singleFrame = false)
    (exact : mapper.lattice.Exact power reach) (signed : Lattice.Signed mapper.lattice.origin)
    (clearly : ∀ sweep ∈ sweeps, mapper.WantsClearly reach sweep) (schedule : List Nat)
    (turn : Nat) : ((Shared.start mapper sweeps).run schedule).Timely sweeps turn := by
  have self := Lattice.beside_self exact sound.finite signed
  have tracks := Shared.tracks_run sound self (keeps_beside sound persistent exact self clearly)
    schedule
  intro sweep frame given framed
  obtain ⟨framing, fits, made⟩ := tracks.framed given framed
  have clear := clearly sweep (List.mem_of_getElem? given)
  obtain ⟨now, madeNow⟩ : ∃ now, ((Shared.start mapper sweeps).run schedule).mapper.frame sweep =
    .ok now := Framing.ok_of_ok tracks.sound.usable made
  obtain ⟨-, placement, placed, corner⟩ :=
    frame_beside sound persistent exact self fits clear made
  obtain ⟨-, other, otherPlaced, cornerNow⟩ :=
    frame_beside sound persistent exact self tracks.map clear madeNow
  rw [placed] at otherPlaced
  cases otherPlaced
  have same := Shared.frame_eq_of_corner sound tracks fits made madeNow
    (cornerNow.trans corner.symm)
  exact ⟨now, madeNow, by rw [same]⟩

end Exact

section Windows

/-- A place to one side, and one to the other with an obstacle on a line between cells. -/
def toAndFro : List Sweep :=
  [sweepAt (-2.19) 0.05, ⟨[⟨2, 0.05, 0⟩], [], some (.together (.onGround 2.08 0.05))⟩]

theorem meter_cell_exact : (oneCell 1).lattice.Exact 0 1 := by
  have side : number (oneCell 1).lattice.resolution = 1 := by decide +kernel
  have corner : number (oneCell 1).lattice.origin.x = 0 ∧
      number (oneCell 1).lattice.origin.y = 0 := by decide +kernel
  have fits : Axis.Fits 0 1 1 0 := ⟨⟨0, by norm_num⟩, by norm_num⟩
  refine ⟨by norm_num, ?_, ?_, ?_⟩
  · rw [side]
    exact ⟨by norm_num, by norm_num, ⟨1, by norm_num⟩, by norm_num, by norm_num⟩
  · rwa [side, corner.1]
  · rwa [side, corner.2]

theorem meter_cell_clearly : (oneCell 1).WantsClearly 1 (sweepAt 1.25 1.25) := by
  have side : number (oneCell 1).lattice.resolution = 1 := by decide +kernel
  have corner : number (oneCell 1).lattice.origin.x = 0 ∧
      number (oneCell 1).lattice.origin.y = 0 := by decide +kernel
  have wanted : number ((oneCell 1).wantedCorner (Pose.onGround 1.25 1.25).ground).x = 3 / 4 ∧
      number ((oneCell 1).wantedCorner (Pose.onGround 1.25 1.25).ground).y = 3 / 4 := by
    decide +kernel
  have clear : Axis.ClearOfTies (1 * 1 / 2 ^ 20) (3 / 4 - 0) 1 :=
    Axis.clear_of_close one_pos 1 (by norm_num [abs_lt])
  intro placement placed _
  cases placed
  refine ⟨by decide +kernel, ?_, ?_⟩
  · change (oneCell 1).lattice.Within 1
      ((oneCell 1).wantedCorner (Pose.onGround 1.25 1.25).ground)
    rw [Lattice.Within, side, wanted.1, wanted.2]
    norm_num [abs_le]
  · change (oneCell 1).lattice.ClearOfTies 1
      ((oneCell 1).wantedCorner (Pose.onGround 1.25 1.25).ground)
    rw [Lattice.ClearOfTies, side, corner.1, corner.2, wanted.1, wanted.2]
    exact ⟨clear, clear⟩

theorem tenth_cell_values : number (oneCell 0.1).lattice.resolution = 13421773 / 2 ^ 27 ∧
    number (oneCell 0.1).lattice.origin.x = 0 ∧ number (oneCell 0.1).lattice.origin.y = 0 := by
  decide +kernel

theorem tenth_cell_roomy : (oneCell 0.1).lattice.Roomy 23 2 := by
  obtain ⟨side, cornerX, cornerY⟩ := tenth_cell_values
  refine ⟨by norm_num, by norm_num, ?_, ?_⟩
  · rw [side]
    norm_num
  · rw [Lattice.Within, side, cornerX, cornerY]
    norm_num

theorem tenth_cell_apart {wanted : Point} (target : ℚ) (cells : ℤ)
    (value : number wanted.x = target ∧ number wanted.y = 0)
    (near : |target| ≤ 23 * (13421773 / 2 ^ 27))
    (close : |target - cells * (13421773 / 2 ^ 27)| <
      13421773 / 2 ^ 27 / 2 - (2 + 1) * 23 * (13421773 / 2 ^ 27) / 2 ^ 20) :
    (oneCell 0.1).lattice.Within 23 wanted ∧
      (oneCell 0.1).lattice.ClearOfTies (((2 : ℕ) + 1) * 23) wanted := by
  obtain ⟨side, cornerX, cornerY⟩ := tenth_cell_values
  rw [Lattice.Within, Lattice.ClearOfTies, side, cornerX, cornerY, value.1, value.2]
  refine ⟨⟨near, by norm_num⟩, ?_, Axis.clear_of_close (by norm_num) 0 (by norm_num)⟩
  exact Axis.clear_of_close (by norm_num) cells (by rwa [sub_zero])

theorem to_and_fro_apart {sweep : Sweep} (given : sweep ∈ toAndFro) :
    (oneCell 0.1).WantsApart 23 2 sweep := by
  intro placement placed _
  simp only [toAndFro, List.mem_cons, List.not_mem_nil, or_false] at given
  rcases given with rfl | rfl
  · cases placed
    refine ⟨by decide +kernel, tenth_cell_apart (-9395241 / 4194304) (-22) ?_ ?_ ?_⟩
    · decide +kernel
    · norm_num [abs_le]
    · norm_num [abs_lt]
  · cases placed
    refine ⟨by decide +kernel, tenth_cell_apart (8514437 / 4194304) 20 ?_ ?_ ?_⟩
    · decide +kernel
    · norm_num [abs_le]
    · norm_num [abs_lt]

end Windows

/-- Overlapping cycles come to what whole cycles come to, in the order in which they finish
and at every point of a schedule, exactly as long as each frame does to the map what a frame
made at once would do. It does where it lies as that one would; and on an exact lattice
every frame does, in every schedule, unless a sweep wants its window near a tie. On a rounded
one the window goes to the same places all the same, and by the same moves. -/
theorem overlap_serial_iff {mapper : Mapper} (reachable : mapper.Reachable)
    (persistent : mapper.settings.singleFrame = false) (sweeps : List Sweep)
    (schedule : List Nat) :
    ((∀ first, first <+: schedule → Shared.SerialAfter mapper sweeps first) ↔
      ∀ first turn, first ++ [turn] <+: schedule →
        ((Shared.start mapper sweeps).run first).Timely sweeps turn) ∧
    (((Shared.start mapper sweeps).finished schedule).Nodup ∧
      ∀ turn, turn ∈ (Shared.start mapper sweeps).finished schedule ↔
        (((Shared.start mapper sweeps).run schedule).result? turn).isSome = true) ∧
    (∀ (turn : Nat) (sweep : Sweep) (frame now : Frame), sweeps[turn]? = some sweep →
      ((Shared.start mapper sweeps).run schedule).cycles[turn]? = some (.framed frame) →
      ((Shared.start mapper sweeps).run schedule).mapper.frame sweep = .ok now →
      now.grid.lattice.origin = frame.grid.lattice.origin →
        ((Shared.start mapper sweeps).run schedule).mapper.TakesAsNow sweep frame) ∧
    (∀ power reach, mapper.lattice.Exact power reach →
      (∀ sweep ∈ sweeps, mapper.WantsClearly reach sweep) →
        Shared.SerialAfter mapper sweeps schedule) ∧
    ∀ reach, mapper.lattice.Roomy reach sweeps.length →
      (∀ sweep ∈ sweeps, mapper.WantsApart reach sweeps.length sweep) →
        Shared.SamePlaces mapper reach sweeps schedule := by
  have sound := sound_of_reachable reachable
  have serial := Shared.serial_iff_timely sound sweeps schedule
  refine ⟨serial, ⟨Shared.nodup_finished schedule, Shared.mem_finished_iff schedule⟩, ?_, ?_, ?_⟩
  · intro turn sweep frame now given framed madeNow same
    have tracks := Shared.tracks_anywhere sound sweeps schedule
    obtain ⟨framing, fits, made⟩ := tracks.framed given framed
    have equal := Shared.frame_eq_of_corner sound tracks fits made madeNow same
    exact ⟨now, madeNow, by rw [equal]⟩
  · intro power reach exact clearly
    apply serial.mpr ?_ schedule List.prefix_rfl
    intro first turn _
    exact timely_of_exact sound persistent exact (signed_of_reachable reachable) clearly first turn
  · intro reach roomy apart
    exact Shared.same_places sound persistent roomy apart schedule

/-- Two cycles in step around a place a quarter of a cell beside the window's corner; and two
that move a window of a tenth of a meter to and fro. -/
theorem overlap_serial_beside_place :
    Shared.SerialAfter (oneCell 1) [sweepAt 1.25 1.25, sweepAt 1.25 1.25] [0, 1, 0, 1, 0, 1] ∧
      Shared.SamePlaces (oneCell 0.1) 23 toAndFro [0, 0, 1, 1, 0, 1] := by
  constructor
  · have made : ofSettings (oneCell 1).settings = .ok (oneCell 1) := by decide +kernel
    have reachable : (oneCell 1).Reachable := ⟨_, oneCell 1, [], made, rfl⟩
    obtain ⟨-, -, -, exactly, -⟩ := overlap_serial_iff reachable rfl
      [sweepAt 1.25 1.25, sweepAt 1.25 1.25] [0, 1, 0, 1, 0, 1]
    apply exactly 0 1 meter_cell_exact
    intro sweep given
    obtain rfl : sweep = sweepAt 1.25 1.25 := by simpa using given
    exact meter_cell_clearly
  · have made : ofSettings (oneCell 0.1).settings = .ok (oneCell 0.1) := by decide +kernel
    have reachable : (oneCell 0.1).Reachable := ⟨_, oneCell 0.1, [], made, rfl⟩
    obtain ⟨-, -, -, -, roundly⟩ := overlap_serial_iff reachable rfl toAndFro [0, 0, 1, 1, 0, 1]
    exact roundly 23 tenth_cell_roomy fun _ given => to_and_fro_apart given

/-- Overlapping cycles around a place half-way between two cells: the second frame was made
before the first one moved the window, and does not bring it back. And away from such places,
on a lattice that is rounded: the second frame has the obstacle in its window because it was
made for another corner. -/
theorem overlap_not_serial :
    (ofSettings (oneCell 1).settings = .ok (oneCell 1) ∧
      ((Shared.start (oneCell 1) [sweepAt 0 0, sweepAt 0 0]).run
        [0, 0, 1, 1, 0, 1]).mapper.lattice.origin = ⟨-1, -1⟩ ∧
      ((oneCell 1).processAll [sweepAt 0 0, sweepAt 0 0]).1.lattice.origin = .zero ∧
      ¬Shared.SerialAfter (oneCell 1) [sweepAt 0 0, sweepAt 0 0] [0, 0, 1, 1, 0, 1]) ∧
    ofSettings (oneCell 0.1).settings = .ok (oneCell 0.1) ∧
      ((Shared.start (oneCell 0.1) toAndFro).run [0, 0, 1, 1, 0, 1]).mapper.beliefs.grid.cells =
        #[⟨0.85⟩] ∧
      ((oneCell 0.1).processAll toAndFro).1.beliefs.grid.cells = #[.unknown] ∧
      ¬Shared.SerialAfter (oneCell 0.1) toAndFro [0, 0, 1, 1, 0, 1] := by
  have away : ((Shared.start (oneCell 1) [sweepAt 0 0, sweepAt 0 0]).run
      [0, 0, 1, 1, 0, 1]).mapper.lattice.origin = ⟨-1, -1⟩ := by decide +kernel
  have back : ((oneCell 1).processAll [sweepAt 0 0, sweepAt 0 0]).1.lattice.origin = .zero := by
    decide +kernel
  have inside : ((Shared.start (oneCell 0.1) toAndFro).run
      [0, 0, 1, 1, 0, 1]).mapper.beliefs.grid.cells = #[⟨0.85⟩] := by decide +kernel
  have outside : ((oneCell 0.1).processAll toAndFro).1.beliefs.grid.cells = #[.unknown] := by
    decide +kernel
  have order : (Shared.start (oneCell 1) [sweepAt 0 0, sweepAt 0 0]).finished
      [0, 0, 1, 1, 0, 1] = [0, 1] := by decide +kernel
  have edgeOrder : (Shared.start (oneCell 0.1) toAndFro).finished [0, 0, 1, 1, 0, 1] = [0, 1] := by
    decide +kernel
  refine ⟨⟨by decide +kernel, away, back, ?_⟩, by decide +kernel, inside, outside, ?_⟩
  · intro serial
    have corners := serial.view_eq (fun mapper => mapper.lattice.origin) order
    rw [away] at corners
    exact absurd (corners.trans back) (by decide +kernel)
  · intro serial
    have cells := serial.view_eq (fun mapper => mapper.beliefs.grid.cells) edgeOrder
    rw [inside, show [0, 1].filterMap (toAndFro[·]?) = toAndFro from rfl, outside] at cells
    exact absurd cells (by decide +kernel)

end Mapper

end EvidenceGrid

import EvidenceGrid.BeliefMap
import EvidenceGrid.Proofs.Grid.Roll
import EvidenceGrid.Proofs.Lattice.Snap
import EvidenceGrid.Proofs.SensorModel

/-!
What taking in one frame does to a belief map under a usable model: the window is
rolled, and every cell is revised once, by what the frame saw at the same place.
A frame is refused for its shape, or for a corner that has no finite position,
and for nothing else.
-/

set_option autoImplicit false

namespace EvidenceGrid.BeliefMap

theorem revise_cells_ok {model : SensorModel} (usable : model.Usable) (grid : Grid Belief)
    (seen : Array Occupancy) (same : seen.size = grid.lattice.area) :
    ∃ revised, reviseCells model grid seen same = .ok revised ∧
      revised.lattice = grid.lattice ∧
      ∀ (index : Nat) (prior : Belief) (observed : Occupancy),
        grid.cells[index]? = some prior → seen[index]? = some observed →
        revised.cells[index]? = some (model.revised prior observed) := by
  have total : (fun pair : Belief × Occupancy => model.revise pair.1 pair.2) =
      fun pair => pure (model.revised pair.1 pair.2) := by
    funext pair
    exact SensorModel.revise_ok usable pair.1 pair.2
  let pairs := (⟨grid.cells, grid.sized⟩ : Vector Belief _).zip ⟨seen, same⟩
  have mapped : pairs.mapM (fun pair => model.revise pair.1 pair.2) =
      pure (pairs.map fun pair => model.revised pair.1 pair.2) := by
    rw [total]
    exact Vector.mapM_pure _
  simp only [reviseCells]
  rw [mapped]
  refine ⟨_, rfl, rfl, ?_⟩
  intro index prior observed priorAt observedAt
  have paired : (grid.cells.zip seen)[index]? = some (prior, observed) :=
    Array.getElem?_zip_eq_some.mpr ⟨priorAt, observedAt⟩
  change ((grid.cells.zip seen).map _)[index]? = _
  rw [Array.getElem?_map, paired]
  rfl

section Shape

variable {left right : Lattice}

theorem same_shape_iff : left.sameShape right = true ↔
    left.width = right.width ∧ left.height = right.height ∧
      (left.resolution == right.resolution) = true := by
  simp only [Lattice.sameShape, Bool.and_eq_true, beq_iff_eq]
  exact and_assoc

theorem same_shape_moved {lattice : Lattice} (usable : lattice.Usable) (origin : Point) :
    Lattice.sameShape { lattice with origin } lattice = true := by
  rw [same_shape_iff]
  exact ⟨rfl, rfl, (Binary32.beq_iff usable.finite usable.finite).mpr rfl⟩

end Shape

theorem revised_value {model : SensorModel} {grid revised : Grid Belief} {frame : Grid Occupancy}
    (alike : frame.lattice.width = grid.lattice.width ∧ frame.lattice.height = grid.lattice.height)
    (kept : revised.lattice = grid.lattice)
    (cells : ∀ (index : Nat) (prior : Belief) (observed : Occupancy),
      grid.cells[index]? = some prior → frame.cells[index]? = some observed →
      revised.cells[index]? = some (model.revised prior observed))
    {place : Offset} (covers : grid.lattice.Covers place) {prior : Belief}
    (priorAt : grid.valueAt? place = some prior) :
    ∃ seen, frame.valueAt? place = some seen ∧
      revised.valueAt? place = some (model.revised prior seen) := by
  have frameCovers : frame.lattice.Covers place := by
    rw [Lattice.Covers, alike.1, alike.2]
    exact covers
  have revisedCovers : revised.lattice.Covers place := by
    rw [kept]
    exact covers
  have position : frame.lattice.position place = grid.lattice.position place := by
    rw [Lattice.position, Lattice.position, alike.1]
  obtain ⟨seen, seenAt⟩ := Option.isSome_iff_exists.mp (Grid.value_at_isSome frameCovers)
  refine ⟨seen, seenAt, ?_⟩
  rw [Grid.valueAt?, if_pos frameCovers, position] at seenAt
  rw [Grid.valueAt?, if_pos covers] at priorAt
  rw [Grid.valueAt?, if_pos revisedCovers, kept]
  exact cells _ _ _ priorAt seenAt

/-- What taking in a frame has done to a map when the frame was not refused. -/
structure Fused (map : BeliefMap) (frame : Grid Occupancy) (after : BeliefMap)
    (tally : FusionTally) : Prop where
  alike : frame.lattice.sameShape map.grid.lattice = true
  finite : (map.grid.lattice.snap frame.lattice.origin).isFinite = true
  shift_eq : tally.shift = map.grid.lattice.shiftTo frame.lattice.origin
  tally_eq : tally.occupied = frame.cells.count .occupied ∧ tally.free = frame.cells.count .free
  model_eq : after.model = map.model
  lattice_eq : after.grid.lattice =
    { map.grid.lattice with
      origin := if tally.shift = .zero then map.grid.lattice.origin
        else map.grid.lattice.snap frame.lattice.origin }
  value_eq : ∀ place, map.grid.lattice.Covers place → ∃ seen,
    frame.valueAt? place = some seen ∧
      after.grid.valueAt? place = some (map.model.revised
        ((map.grid.valueAt? (place + tally.shift)).getD .unknown) seen)

def Refusal (map : BeliefMap) (frame : Grid Occupancy) (fault : Fault) : Prop :=
  (frame.lattice.sameShape map.grid.lattice = false ∧
    fault = .shape (.frame frame.lattice.width frame.lattice.height frame.lattice.resolution
      map.grid.lattice.width map.grid.lattice.height map.grid.lattice.resolution)) ∨
  (frame.lattice.sameShape map.grid.lattice = true ∧
    (map.grid.lattice.snap frame.lattice.origin).isFinite = false ∧
    fault = .geometry (.originNotFinite frame.lattice.origin))

/-- A frame is taken in when it has the map's shape and its corner a finite
position, and refused otherwise. -/
theorem update_spec {map : BeliefMap} (usable : map.model.Usable) (frame : Grid Occupancy) :
    (∃ after tally, map.update frame = .ok (after, tally) ∧ Fused map frame after tally) ∨
      ∃ fault, map.update frame = .error fault ∧ Refusal map frame fault := by
  rw [update]
  split_ifs with alike
  · split
    · next fault rolled =>
        obtain ⟨infinite, cause⟩ := Grid.roll_to_error_iff.mp rolled
        exact Or.inr ⟨fault, rfl, Or.inr ⟨alike, infinite, cause⟩⟩
    · next grid shift rolled =>
        obtain ⟨finite, shiftEq, latticeEq, valueEq⟩ := Grid.rolled_by_of_roll_to rolled
        have same : frame.cells.size = grid.lattice.area := by
          rw [frame.sized, Lattice.area_eq_of_sameShape alike, Grid.area_of_rollTo rolled]
        obtain ⟨revised, ran, kept, cells⟩ := revise_cells_ok usable grid frame.cells same
        refine Or.inl ⟨{ map with grid := revised },
          ⟨shift, frame.cells.count .occupied, frame.cells.count .free⟩, ?_, ?_⟩
        · rw [ran]
          rfl
        · refine ⟨alike, finite, shiftEq, ⟨rfl, rfl⟩, rfl, kept.trans latticeEq, ?_⟩
          intro place covers
          obtain ⟨width, height, -⟩ := same_shape_iff.mp alike
          have gridCovers : grid.lattice.Covers place := by
            rw [latticeEq]
            exact covers
          have sides : frame.lattice.width = grid.lattice.width ∧
              frame.lattice.height = grid.lattice.height := by
            rw [latticeEq]
            exact ⟨width, height⟩
          exact revised_value sides kept cells gridCovers (valueEq place covers)
  · exact Or.inr ⟨_, rfl, Or.inl ⟨by simpa using alike, rfl⟩⟩

theorem fused_of_update {map after : BeliefMap} {frame : Grid Occupancy} {tally : FusionTally}
    (usable : map.model.Usable) (ran : map.update frame = .ok (after, tally)) :
    Fused map frame after tally := by
  rcases update_spec usable frame with ⟨_, _, ok, fused⟩ | ⟨_, refused, -⟩
  · rw [ran] at ok
    cases ok
    exact fused
  · rw [ran] at refused
    cases refused

theorem reset_value {map : BeliefMap} {place : Offset} (covers : map.grid.lattice.Covers place) :
    map.reset.grid.valueAt? place = some .unknown := by
  have bounds := Lattice.position_bounds covers
  have kept : map.reset.grid.lattice.Covers place := covers
  rw [Grid.valueAt?, if_pos kept]
  change (Array.replicate map.grid.cells.size Belief.unknown)[_]? = _
  rw [Array.getElem?_replicate, if_pos]
  rw [map.grid.sized]
  change (map.grid.lattice.position place).toNat < _
  omega

theorem empty_ok {lattice : Lattice} {model : SensorModel} (usable : lattice.Usable)
    (sound : model.Usable) :
    ∃ map, empty lattice model = .ok map ∧ map.model = model ∧ map.grid.lattice = lattice ∧
      ∀ place, lattice.Covers place → map.grid.valueAt? place = some .unknown := by
  have passed := (Lattice.validate_ok_iff lattice).mpr usable
  have checked := (SensorModel.validate_ok_iff model).mpr sound
  refine ⟨⟨model, lattice, Array.replicate lattice.area .unknown, Array.size_replicate⟩, ?_, rfl,
    rfl, ?_⟩
  · simp only [empty, Grid.filled_eq, ofGrid, passed, checked]
    rfl
  · intro place covers
    obtain ⟨start, stop⟩ := Lattice.position_bounds covers
    rw [Grid.valueAt?, if_pos covers, Array.getElem?_replicate]
    exact if_pos ((Int.toNat_lt start).mpr stop)

end EvidenceGrid.BeliefMap

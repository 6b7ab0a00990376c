import EvidenceGrid.Proofs.BeliefMap.Update
import EvidenceGrid.Proofs.Grid.InPlace

/-!
A frame taken in write by write: the window is rolled, then the cells are revised one after the
other in the array that holds them, and the tally is counted on the way. A revision that fails
would leave the cells before it revised. Under a usable model none does, so a frame is either
refused before the first write or taken in to the last cell.
-/

set_option autoImplicit false

namespace EvidenceGrid

def FusionTally.note (tally : FusionTally) : Occupancy → FusionTally
  | .occupied => { tally with occupied := tally.occupied + 1 }
  | .free => { tally with free := tally.free + 1 }
  | .unknown => tally

namespace Steps

def reviseAt (model : SensorModel) (tally : FusionTally) (seen : Occupancy × Nat) :
    Steps Belief FusionTally := do
  let store ← get
  match store.cells[seen.2]? with
  | none => throw .outOfRange
  | some prior =>
    match model.revise prior seen.1 with
    | .error fault => throw (.refused fault)
    | .ok belief =>
      set { store with cells := store.cells.setIfInBounds seen.2 belief }
      return tally.note seen.1

def fuse (model : SensorModel) (frame : Grid Occupancy) : Steps Belief FusionTally := do
  let store ← get
  if frame.lattice.sameShape store.lattice then
    let shift ← roll frame.lattice.origin .unknown
    frame.cells.toList.zipIdx.foldlM (reviseAt model) { shift, occupied := 0, free := 0 }
  else
    throw (.refused (.shape (.frame frame.lattice.width frame.lattice.height
      frame.lattice.resolution store.lattice.width store.lattice.height store.lattice.resolution)))

section Revise

variable {model : SensorModel} {store : Store Belief}

theorem revise_at_run (usable : model.Usable) (tally : FusionTally) {seen : Occupancy}
    {index : Nat} {prior : Belief} (priorAt : store.cells[index]? = some prior) :
    (reviseAt model tally (seen, index)).run store = .ok (tally.note seen)
      { store with cells := store.cells.setIfInBounds index (model.revised prior seen) } := by
  rw [reviseAt, bind_of_ok (get_run store)]
  simp only [priorAt, SensorModel.revise_ok usable]
  rfl

/-- The cells that are done stand in front of those that are still to be revised. -/
theorem revise_rest_run (usable : model.Usable) (store : Store Belief) (seen : List Occupancy)
    (done rest : List Belief) (same : rest.length = seen.length)
    (cells : store.cells = (done ++ rest).toArray) (tally : FusionTally) :
    ((seen.zipIdx done.length).foldlM (reviseAt model) tally).run store =
      .ok (seen.foldl FusionTally.note tally)
        { store with cells := (done ++ List.zipWith model.revised rest seen).toArray } := by
  induction seen generalizing done rest store tally with
  | nil =>
      obtain rfl := List.eq_nil_of_length_eq_zero same
      rw [List.zipWith_nil_right, ← cells]
      rfl
  | cons first later ih =>
      obtain ⟨prior, others, rfl⟩ := List.exists_cons_of_length_eq_add_one same
      have priorAt : store.cells[done.length]? = some prior := by simp [cells]
      have written : store.cells.setIfInBounds done.length (model.revised prior first) =
          ((done ++ [model.revised prior first]) ++ others).toArray := by simp [cells]
      have next := ih { store with cells := _ } (done ++ [model.revised prior first]) others
        (Nat.succ.inj same) written (tally.note first)
      rw [List.length_append, List.length_singleton] at next
      rw [List.zipIdx_cons, List.foldlM_cons, bind_of_ok (revise_at_run usable tally priorAt)]
      refine next.trans ?_
      rw [List.zipWith_cons_cons, List.foldl_cons, List.append_assoc, List.singleton_append]

theorem foldl_note (seen : List Occupancy) (tally : FusionTally) :
    seen.foldl FusionTally.note tally =
      { tally with
        occupied := tally.occupied + seen.count .occupied
        free := tally.free + seen.count .free } := by
  induction seen generalizing tally with
  | nil => rfl
  | cons first rest ih =>
      rw [List.foldl_cons, ih]
      cases first with
      | unknown => simp [FusionTally.note]
      | free => simp [FusionTally.note, add_right_comm, add_assoc]
      | occupied => simp [FusionTally.note, add_right_comm, add_assoc]

end Revise

end Steps

namespace BeliefMap

def ending (map : BeliefMap) :
    Except Fault (BeliefMap × FusionTally) → EStateM.Result Stop (Store Belief) FusionTally
  | .ok (after, tally) => .ok tally after.grid.store
  | .error fault => .error (.refused fault) map.grid.store

theorem cells_of_revise {model : SensorModel} (usable : model.Usable) {grid revised : Grid Belief}
    {seen : Array Occupancy} {same : seen.size = grid.lattice.area}
    (ran : reviseCells model grid seen same = .ok revised) :
    revised.store = { grid.store with
      cells := (List.zipWith model.revised grid.cells.toList seen.toList).toArray } := by
  obtain ⟨other, otherRan, kept, cells⟩ := revise_cells_ok usable grid seen same
  rw [ran] at otherRan
  cases otherRan
  have sized := grid.sized
  have revisedSized := revised.sized
  rw [kept] at revisedSized
  have values : revised.cells =
      (List.zipWith model.revised grid.cells.toList seen.toList).toArray := by
    apply Array.ext
    · simp only [List.size_toArray, List.length_zipWith, Array.length_toList]
      omega
    · intro index bound _
      have prior := Array.getElem?_eq_getElem (show index < grid.cells.size by omega)
      have observed := Array.getElem?_eq_getElem (show index < seen.size by omega)
      have value := cells index _ _ prior observed
      rw [Array.getElem?_eq_getElem bound, Option.some.injEq] at value
      rw [value]
      simp
  rw [Grid.store, kept, values]

/-- A frame in place does what it does to the whole map. What refuses it stands before the first
write, and no access misses. -/
theorem fuse_run {map : BeliefMap} (usable : map.model.Usable) (frame : Grid Occupancy) :
    (Steps.fuse map.model frame).run map.grid.store = map.ending (map.update frame) := by
  rw [Steps.fuse, Steps.bind_of_ok (Steps.get_run _), update]
  split_ifs with alike
  · have rolledInPlace := Grid.roll_run map.grid frame.lattice.origin .unknown
    split
    · next fault rolled =>
        rw [rolled] at rolledInPlace
        rw [Steps.bind_of_error rolledInPlace]
        rfl
    · next grid shift rolled =>
        rw [rolled] at rolledInPlace
        have same : frame.cells.size = grid.lattice.area := by
          rw [frame.sized, Lattice.area_eq_of_sameShape alike, Grid.area_of_rollTo rolled]
        obtain ⟨revised, ran, -⟩ := revise_cells_ok usable grid frame.cells same
        have sized : grid.cells.toList.length = frame.cells.toList.length := by
          rw [Array.length_toList, Array.length_toList, grid.sized, same]
        have revisedInPlace := Steps.revise_rest_run usable grid.store frame.cells.toList []
          grid.cells.toList sized rfl { shift, occupied := 0, free := 0 }
        rw [Steps.bind_of_ok rolledInPlace]
        refine revisedInPlace.trans ?_
        rw [Steps.foldl_note, ran]
        change EStateM.Result.ok _ _ = EStateM.Result.ok _ revised.store
        rw [cells_of_revise usable ran]
        simp
  · rfl

end BeliefMap

end EvidenceGrid

import EvidenceGrid.Proofs.Grid.Words

/-!
Grids that are changed in place, write by write. Here nothing ties the values to the lattice,
an access may miss the array, and a change that ends early leaves what it has written so far.
Run like this, every change of a grid does what the operation on whole grids says: no access
misses, and a change that is refused has written nothing. What the moved and filled values are
is not followed here.
-/

set_option autoImplicit false

namespace EvidenceGrid

structure Store (α : Type) where
  lattice : Lattice
  cells : Array α

inductive Stop
  | refused (fault : Fault)
  | outOfRange

/-- Steps on a store. The store stays as the last step left it, also when they end early. -/
abbrev Steps (α β : Type) := EStateM Stop (Store α) β

/-- A change of a grid. To clear a grid is to fill it with the value of an untouched cell. -/
inductive Edit (α : Type)
  | set (cell : Cell) (value : α)
  | modify (cell : Cell) (change : α → α)
  | rewrite (change : Array α → Array α) (same : ∀ cells, (change cells).size = cells.size)
  | moveTo (origin : Point)
  | rollTo (origin : Point) (entering : α)
  | resize (width height : UInt32) (resolution : Float32) (value : α)
  | fillRegion (region : Region) (value : α)
  | fill (value : α)

namespace Grid

variable {α : Type}

abbrev store (grid : Grid α) : Store α := ⟨grid.lattice, grid.cells⟩

def edit (grid : Grid α) : Edit α → Except Fault (Grid α × Option Offset)
  | .set cell value => (grid.set cell value).map (·, none)
  | .modify cell change => (grid.modify cell change).map (·, none)
  | .rewrite change same => .ok (grid.withCells (change grid.cells) (same grid.cells), none)
  | .moveTo origin => .ok (grid.moveTo origin, none)
  | .rollTo origin entering =>
    (grid.rollTo origin entering).map fun (after, shift) => (after, some shift)
  | .resize width height resolution value =>
    (grid.resize width height resolution value).map (·, none)
  | .fillRegion region value => .ok (grid.fillRegion region value, none)
  | .fill value => .ok (grid.fill value, none)

def run (grid : Grid α) (edits : List (Edit α)) : Grid α :=
  edits.foldl (fun grid edit =>
    match grid.edit edit with
    | .ok (after, _) => after
    | .error _ => grid) grid

end Grid

/-! ## The same changes, write by write -/

namespace Steps

variable {α : Type}

def indexOf (cell : Cell) : Steps α Nat := do
  let store ← get
  if store.lattice.contains cell then return store.lattice.index cell
  else throw (.refused (store.lattice.outside cell))

def writeAt (index : Nat) (change : α → α) : Steps α Unit := do
  let store ← get
  if index < store.cells.size then
    set { store with cells := store.cells.modify index change }
  else throw .outOfRange

def fillRun (value : α) (run : Nat × Nat) : Steps α Unit := do
  let store ← get
  if run.1 + run.2 ≤ store.cells.size then
    set { store with cells := Runs.fill store.cells run.1 run.2 value }
  else throw .outOfRange

/-- One row of a roll, into a buffer that is no part of the store yet. -/
def copyRow (old buffer : Array α) (move : Grid.RowMove) : Steps α (Array α) :=
  if 0 ≤ move.length ∧ (0 ≤ move.target ∧ move.target + move.length ≤ buffer.size) ∧
      0 ≤ move.source ∧ move.source + move.length ≤ old.size then
    return Runs.copy buffer old move.target.toNat move.source.toNat move.length.toNat
  else throw .outOfRange

/-- The values are replaced before the corner is, with nothing between that could end early. -/
def roll (origin : Point) (entering : α) : Steps α Offset := do
  let store ← get
  let corner := store.lattice.snap origin
  let shift := store.lattice.shiftTo origin
  if !corner.isFinite then throw (.refused (.geometry (.originNotFinite origin)))
  else if shift = .zero then return shift
  else
    let rolled ← (Grid.rowMoves store.lattice shift).foldlM (copyRow store.cells)
      (Array.replicate store.cells.size entering)
    modify fun store => { store with cells := rolled }
    modify fun store => { store with lattice := { store.lattice with origin := corner } }
    return shift

def resize (width height : UInt32) (resolution : Float32) (value : α) : Steps α Unit := do
  let store ← get
  match Grid.filled ⟨width, height, resolution, store.lattice.origin⟩ value with
  | .error fault => throw (.refused fault)
  | .ok fresh => set fresh.store

def of : Edit α → Steps α (Option Offset)
  | .set cell value => do
    writeAt (← indexOf cell) fun _ => value
    return none
  | .modify cell change => do
    writeAt (← indexOf cell) change
    return none
  | .rewrite change _ => do
    modify fun store => { store with cells := change store.cells }
    return none
  | .moveTo origin => do
    modify fun store => { store with lattice := { store.lattice with origin } }
    return none
  | .rollTo origin entering => do
    return some (← roll origin entering)
  | .resize width height resolution value => do
    resize width height resolution value
    return none
  | .fillRegion region value => do
    let store ← get
    forM (Grid.regionRuns store.lattice region) (fillRun value)
    return none
  | .fill value => do
    modify fun store => { store with cells := Array.replicate store.cells.size value }
    return none

end Steps

def Store.run {α : Type} (store : Store α) (edits : List (Edit α)) : Store α :=
  edits.foldl (fun store edit =>
    match (Steps.of edit).run store with
    | .ok _ after => after
    | .error _ after => after) store

/-! ## What the steps of each change do -/

section

variable {α : Type}

namespace Steps

section Bind
variable {σ β γ : Type} {first : EStateM Stop σ β} {next : β → EStateM Stop σ γ}
  {before after : σ}

theorem bind_of_ok {value : β} (ran : first.run before = .ok value after) :
    (first >>= next).run before = (next value).run after := by
  change EStateM.bind first next before = _
  rw [EStateM.run] at ran
  rw [EStateM.bind, ran]
  rfl

theorem bind_of_error {stop : Stop} (ended : first.run before = .error stop after) :
    (first >>= next).run before = .error stop after := by
  change EStateM.bind first next before = _
  rw [EStateM.run] at ended
  rw [EStateM.bind, ended]

theorem get_run (state : σ) : (get : EStateM Stop σ σ).run state = .ok state state := rfl

end Bind

section Run

theorem index_of_run (cell : Cell) (store : Store α) : (indexOf cell).run store =
    if store.lattice.contains cell = true then .ok (store.lattice.index cell) store
    else .error (.refused (store.lattice.outside cell)) store := by
  rw [indexOf, bind_of_ok (get_run store)]
  split_ifs <;> rfl

theorem write_at_run {index : Nat} {store : Store α} (inRange : index < store.cells.size)
    (change : α → α) : (writeAt index change).run store =
      .ok () { store with cells := store.cells.modify index change } := by
  rw [writeAt, bind_of_ok (get_run store), if_pos inRange]
  rfl

theorem fill_runs (value : α) {store : Store α} (runs : List (Nat × Nat))
    (inRange : ∀ run ∈ runs, run.1 + run.2 ≤ store.cells.size) :
    (forM runs (fillRun value)).run store = .ok ()
      { store with
        cells := runs.foldl (fun cells run => Runs.fill cells run.1 run.2 value) store.cells } := by
  induction runs generalizing store with
  | nil => rfl
  | cons run rest ih =>
      have filled : (fillRun value run).run store =
          .ok () { store with cells := Runs.fill store.cells run.1 run.2 value } := by
        rw [fillRun, bind_of_ok (get_run store), if_pos (inRange run List.mem_cons_self)]
        rfl
      rw [List.forM_cons, bind_of_ok filled, ih]
      · rfl
      · intro other member
        rw [Runs.size_fill]
        exact inRange other (List.mem_cons_of_mem _ member)

theorem copy_rows {old : Array α} (store : Store α) (moves : List Grid.RowMove)
    (inside : ∀ move ∈ moves, move.Inside old.size) {buffer : Array α}
    (same : buffer.size = old.size) :
    (moves.foldlM (copyRow old) buffer).run store =
      .ok (moves.foldl (fun cells move =>
        Runs.copy cells old move.target.toNat move.source.toNat move.length.toNat) buffer)
        store := by
  induction moves generalizing buffer with
  | nil => rfl
  | cons move rest ih =>
      obtain ⟨length, target, source⟩ := inside move List.mem_cons_self
      have copied : (copyRow old buffer move).run store =
          .ok (Runs.copy buffer old move.target.toNat move.source.toNat move.length.toNat)
            store := by
        rw [copyRow, if_pos ⟨length, same ▸ target, source⟩]
        rfl
      rw [List.foldlM_cons, bind_of_ok copied, List.foldl_cons]
      -- The buffer keeps its size, so the rows after this one lie in it as well.
      apply ih
      · intro other member
        exact inside other (List.mem_cons_of_mem _ member)
      · rw [Runs.size_copy, same]

end Run
end Steps

namespace Grid

/-- The end of a change in place, by what the change gives on the whole grid. -/
def ending {β : Type} (grid : Grid α) :
    Except Fault (Grid α × β) → EStateM.Result Stop (Store α) β
  | .ok (after, answer) => .ok answer after.store
  | .error fault => .error (.refused fault) grid.store

theorem is_empty_iff (region : Region) : region.isEmpty = true ↔
    region.max.x.toNat ≤ region.min.x.toNat ∨ region.max.y.toNat ≤ region.min.y.toNat := by
  rw [Region.isEmpty, Bool.or_eq_true, decide_eq_true_eq, decide_eq_true_eq,
    UInt32.le_iff_toNat_le, UInt32.le_iff_toNat_le]

theorem clip_max (lattice : Lattice) (region : Region) :
    (clip lattice region).max.x.toNat = min region.max.x.toNat lattice.width.toNat ∧
      (clip lattice region).max.y.toNat = min region.max.y.toNat lattice.height.toNat :=
  ⟨UInt32.toNat_min _ _, UInt32.toNat_min _ _⟩

/-- A run of a region goes along a row that the region and the lattice share, from the first
column of the region to where the region or the row ends. -/
def RowRun (lattice : Lattice) (region : Region) (run : Nat × Nat) : Prop :=
  ∃ row, (region.min.y ≤ row ∧ row < region.max.y ∧ row < lattice.height) ∧
    run.1 = lattice.index ⟨region.min.x, row⟩ ∧
    run.1 + run.2 = lattice.index ⟨min region.max.x lattice.width, row⟩ ∧ 0 < run.2

theorem row_run_of_mem {lattice : Lattice} {region : Region} {run : Nat × Nat}
    (member : run ∈ regionRuns lattice region) : RowRun lattice region run := by
  obtain ⟨right, top⟩ := clip_max lattice region
  rw [regionRuns] at member
  simp only at member
  split_ifs at member with empty
  · cases member
  · obtain ⟨step, below, rfl⟩ := List.mem_map.mp member
    rw [List.mem_range] at below
    rw [is_empty_iff] at empty
    have bottom : (clip lattice region).min.y.toNat = region.min.y.toNat := rfl
    have left : (clip lattice region).min.x.toNat = region.min.x.toNat := rfl
    have rows := lattice.height.toNat_lt
    have row : (UInt32.ofNat (region.min.y.toNat + step)).toNat = region.min.y.toNat + step :=
      UInt32.toNat_ofNat_of_lt' (by change _ < 2 ^ 32; omega)
    refine ⟨UInt32.ofNat (region.min.y.toNat + step), ?_, ?_, ?_, ?_⟩
    · simp only [UInt32.le_iff_toNat_le, UInt32.lt_iff_toNat_lt, row]
      omega
    · rw [Lattice.index, row]
      rfl
    · rw [Lattice.index, row, UInt32.toNat_min]
      simp only [bottom, left]
      omega
    · simp only
      omega

theorem RowRun.inside {lattice : Lattice} {region : Region} {run : Nat × Nat}
    (along : RowRun lattice region run) : run.1 + run.2 ≤ lattice.area := by
  obtain ⟨row, ⟨-, -, below⟩, -, stop, -⟩ := along
  have right : (min region.max.x lattice.width).toNat ≤ lattice.width.toNat := by
    rw [UInt32.toNat_min]
    exact Nat.min_le_right _ _
  calc run.1 + run.2
      = row.toNat * lattice.width.toNat + (min region.max.x lattice.width).toNat := stop
    _ ≤ lattice.height.toNat * lattice.width.toNat :=
        Lattice.row_end_le right (UInt32.lt_iff_toNat_lt.mp below)
    _ = lattice.area := Nat.mul_comm _ _

theorem modify_run (grid : Grid α) (cell : Cell) (change : α → α) :
    (Steps.of (.modify cell change)).run grid.store =
      grid.ending (grid.edit (.modify cell change)) := by
  have found := Steps.index_of_run cell grid.store
  rw [edit, modify]
  by_cases inside : grid.lattice.contains cell = true
  · rw [if_pos inside] at found
    have bound : grid.lattice.index cell < grid.store.cells.size := index_lt_size inside
    rw [Steps.of, Steps.bind_of_ok found, Steps.bind_of_ok (Steps.write_at_run bound change),
      if_pos inside]
    rfl
  · rw [if_neg inside] at found
    rw [Steps.of, Steps.bind_of_error found, if_neg inside]
    rfl

theorem roll_run (grid : Grid α) (origin : Point) (entering : α) :
    (Steps.roll origin entering).run grid.store = grid.ending (grid.rollTo origin entering) := by
  rw [Steps.roll, Steps.bind_of_ok (Steps.get_run grid.store), rollTo]
  by_cases refused : (!(grid.lattice.snap origin).isFinite) = true
  · rw [if_pos refused, if_pos refused]
    rfl
  · rw [if_neg refused, if_neg refused]
    by_cases still : grid.lattice.shiftTo origin = .zero
    · rw [if_pos still, if_pos still]
      rfl
    · have inside (move : RowMove)
          (member : move ∈ rowMoves grid.lattice (grid.lattice.shiftTo origin)) :
          move.Inside grid.cells.size := by
        obtain ⟨row, -, rfl, kept, below⟩ := kept_of_mem_row_moves member
        rw [grid.sized]
        exact inside_of_kept kept below
      rw [if_neg still, if_neg still]
      have copied := Steps.copy_rows grid.store _ inside (Array.size_replicate (v := entering))
      rw [Steps.bind_of_ok copied]
      rfl

theorem resize_run (grid : Grid α) (width height : UInt32) (resolution : Float32) (value : α) :
    (Steps.of (.resize width height resolution value)).run grid.store =
      grid.ending (grid.edit (.resize width height resolution value)) := by
  have resized : (Steps.resize width height resolution value).run grid.store =
      match grid.resize width height resolution value with
      | .error fault => .error (.refused fault) grid.store
      | .ok fresh => .ok () fresh.store := by
    rw [Steps.resize, Steps.bind_of_ok (Steps.get_run grid.store), resize]
    cases filled ⟨width, height, resolution, grid.lattice.origin⟩ value <;> rfl
  rw [Steps.of, edit]
  cases made : grid.resize width height resolution value with
  | error fault =>
      rw [made] at resized
      rw [Steps.bind_of_error resized]
      rfl
  | ok fresh =>
      rw [made] at resized
      rw [Steps.bind_of_ok resized]
      rfl

/-- A change in place does what it does to the whole grid. Where it is refused there is nothing to
take back: each refusal stands before the first write. -/
theorem edit_run (grid : Grid α) (change : Edit α) :
    (Steps.of change).run grid.store = grid.ending (grid.edit change) := by
  cases change with
  | set cell value => exact modify_run grid cell fun _ => value
  | modify cell change => exact modify_run grid cell change
  | rewrite change same => rfl
  | moveTo origin => rfl
  | rollTo origin entering =>
      have rolled := roll_run grid origin entering
      rw [Steps.of, edit]
      cases made : grid.rollTo origin entering with
      | error fault =>
          rw [made] at rolled
          rw [Steps.bind_of_error rolled]
          rfl
      | ok result =>
          rw [made] at rolled
          rw [Steps.bind_of_ok rolled]
          rfl
  | resize width height resolution value => exact resize_run grid width height resolution value
  | fillRegion region value =>
      have inRange (run : Nat × Nat) (member : run ∈ regionRuns grid.lattice region) :
          run.1 + run.2 ≤ grid.store.cells.size := by
        rw [grid.sized]
        exact (row_run_of_mem member).inside
      rw [Steps.of, Steps.bind_of_ok (Steps.get_run grid.store),
        Steps.bind_of_ok (Steps.fill_runs value _ inRange)]
      rfl
  | fill value => rfl

end Grid

/-! ## Every history of changes -/

structure Store.Sound (store : Store α) : Prop where
  sized : store.cells.size = store.lattice.width.toNat * store.lattice.height.toNat
  usable : store.lattice.Usable
  inRange : ∀ cell, store.lattice.contains cell = true →
    store.lattice.index cell < store.cells.size

namespace Grid

def Made (grid : Grid α) : Prop :=
  (∃ lattice cells, ofCells lattice cells = .ok grid) ∨
    ∃ lattice value, filled lattice value = .ok grid

theorem usable_of_filled {lattice : Lattice} {value : α} {grid : Grid α}
    (made : filled lattice value = .ok grid) : grid.lattice.Usable := by
  rw [filled_eq] at made
  cases checked : lattice.validate with
  | error fault =>
      rw [checked] at made
      cases made
  | ok passed =>
      rw [checked] at made
      cases made
      exact (Lattice.validate_ok_iff lattice).mp checked

theorem usable_of_made {grid : Grid α} (made : grid.Made) : grid.lattice.Usable := by
  obtain ⟨lattice, cells, made⟩ | ⟨lattice, value, made⟩ := made
  · rw [ofCells] at made
    cases checked : lattice.validate with
    | error fault =>
        rw [checked] at made
        cases made
    | ok passed =>
        rw [checked] at made
        change (if sized : cells.size = lattice.area then _ else _) = _ at made
        split_ifs at made
        · cases made
          exact (Lattice.validate_ok_iff lattice).mp checked
  · exact usable_of_filled made

theorem edit_cases {grid after : Grid α} {answer : Option Offset} (change : Edit α)
    (done : grid.edit change = .ok (after, answer)) :
    (∃ origin, after.lattice = { grid.lattice with origin }) ∨
      ∃ lattice value, filled lattice value = .ok after := by
  cases change with
  | set cell value =>
      rw [edit, set, modify] at done
      split_ifs at done
      · cases done
        exact .inl ⟨grid.lattice.origin, rfl⟩
      · cases done
  | modify cell change =>
      rw [edit, modify] at done
      split_ifs at done
      · cases done
        exact .inl ⟨grid.lattice.origin, rfl⟩
      · cases done
  | rewrite change same =>
      cases done
      exact .inl ⟨grid.lattice.origin, rfl⟩
  | moveTo origin =>
      cases done
      exact .inl ⟨origin, rfl⟩
  | rollTo origin entering =>
      rw [edit, rollTo] at done
      dsimp only at done
      split_ifs at done
      · cases done
      · cases done
        exact .inl ⟨grid.lattice.origin, rfl⟩
      · cases done
        exact .inl ⟨_, rfl⟩
  | resize width height resolution value =>
      rw [edit, resize] at done
      cases made : filled ⟨width, height, resolution, grid.lattice.origin⟩ value with
      | error fault =>
          rw [made] at done
          cases done
      | ok fresh =>
          rw [made] at done
          cases done
          exact .inr ⟨_, value, made⟩
  | fillRegion region value =>
      cases done
      exact .inl ⟨grid.lattice.origin, rfl⟩
  | fill value =>
      cases done
      exact .inl ⟨grid.lattice.origin, rfl⟩

theorem usable_edit {grid after : Grid α} {answer : Option Offset} (change : Edit α)
    (usable : grid.lattice.Usable) (done : grid.edit change = .ok (after, answer)) :
    after.lattice.Usable := by
  obtain ⟨origin, moved⟩ | ⟨lattice, value, made⟩ := edit_cases change done
  · rw [moved]
    exact Lattice.usable_moved usable origin
  · exact usable_of_filled made

theorem run_store (grid : Grid α) (edits : List (Edit α)) :
    grid.store.run edits = (grid.run edits).store := by
  induction edits generalizing grid with
  | nil => rfl
  | cons change rest ih =>
      have step := edit_run grid change
      rw [Store.run, run, List.foldl_cons, List.foldl_cons, step]
      cases done : grid.edit change with
      | error fault => exact ih grid
      | ok result => exact ih result.1

theorem usable_run {grid : Grid α} (usable : grid.lattice.Usable) (edits : List (Edit α)) :
    (grid.run edits).lattice.Usable := by
  induction edits generalizing grid with
  | nil => exact usable
  | cons change rest ih =>
      rw [run, List.foldl_cons]
      cases done : grid.edit change with
      | error fault => exact ih usable
      | ok result => exact ih (usable_edit change usable done)

/-- A history of changes leaves a store that is sound, and one more change either goes through as
on the whole grid or is refused as there, with nothing written and no access missed. -/
theorem edits_sound_and_atomic {start : Grid α} (made : start.Made) (edits : List (Edit α)) :
    (start.store.run edits).Sound ∧
      ∀ change,
        (∃ answer after, (Steps.of change).run (start.store.run edits) = .ok answer after.store ∧
          (start.run edits).edit change = .ok (after, answer)) ∨
        ∃ fault, (Steps.of change).run (start.store.run edits) =
            .error (.refused fault) (start.store.run edits) ∧
          (start.run edits).edit change = .error fault := by
  rw [run_store]
  constructor
  · have usable := usable_run (usable_of_made made) edits
    have sized := (start.run edits).sized
    refine ⟨sized, usable, ?_⟩
    intro cell inside
    calc (start.run edits).lattice.index cell
        < (start.run edits).lattice.area := Lattice.index_lt_area inside
      _ = (start.run edits).cells.size := sized.symm
  · intro change
    rw [edit_run]
    cases done : (start.run edits).edit change with
    | error fault => exact .inr ⟨fault, rfl, rfl⟩
    | ok result => exact .inl ⟨result.2, result.1, rfl, rfl⟩

/-- Two cells, rolled by one and written to between three changes that are refused. -/
theorem edits_sound_and_atomic_two_cells :
    let start : Grid Nat := ⟨⟨2, 1, 1, .zero⟩, #[3, 4], rfl⟩
    let edits : List (Edit Nat) :=
      [.rollTo ⟨1, 0⟩ 9, .set ⟨7, 7⟩ 1, .resize 0 3 1 8, .rollTo ⟨1 / 0, 0⟩ 5,
        .modify ⟨0, 0⟩ (· + 1), .fillRegion ⟨⟨1, 0⟩, ⟨5, 5⟩⟩ 2]
    start.Made ∧ (start.store.run edits).cells = #[5, 2] ∧ (start.store.run edits).Sound ∧
      ∀ change,
        (∃ answer after, (Steps.of change).run (start.store.run edits) = .ok answer after.store ∧
          (start.run edits).edit change = .ok (after, answer)) ∨
        ∃ fault, (Steps.of change).run (start.store.run edits) =
            .error (.refused fault) (start.store.run edits) ∧
          (start.run edits).edit change = .error fault := by
  intro start edits
  have made : start.Made := .inl ⟨start.lattice, start.cells, by decide +kernel⟩
  obtain ⟨sound, atomic⟩ := edits_sound_and_atomic made edits
  exact ⟨made, by decide +kernel, sound, atomic⟩

end Grid

end

end EvidenceGrid

import EvidenceGrid.Proofs.Lattice.Cell

/-!
The views of a grid: the value of one cell, the grid with one value replaced, and the list of all
cells. They agree because the position of a cell and the cell at a position undo each other, so
each cell has one value of its own and each value is that of one cell. Nothing is asked of a grid,
so the views agree after any operations.
-/

set_option autoImplicit false

namespace EvidenceGrid

def Cell.Before (cell other : Cell) : Prop :=
  cell.y < other.y ∨ cell.y = other.y ∧ cell.x < other.x

theorem Cell.Before.ne {cell other : Cell} (before : cell.Before other) : cell ≠ other := by
  rintro rfl
  rcases before with lower | ⟨-, left⟩
  · exact UInt32.lt_irrefl _ lower
  · exact UInt32.lt_irrefl _ left

namespace Lattice

variable {lattice : Lattice} {cell other : Cell}

theorem index_lt_of_row_lt (inside : lattice.contains cell = true) (lower : cell.y < other.y) :
    lattice.index cell < lattice.index other := by
  obtain ⟨⟨-, right⟩, -⟩ := (contains_iff_covers lattice cell).mp inside
  have column : cell.x.toNat + 1 ≤ lattice.width.toNat := Int.ofNat_lt.mp right
  calc lattice.index cell
      < cell.y.toNat * lattice.width.toNat + (cell.x.toNat + 1) := Nat.lt_succ_self _
    _ ≤ other.y.toNat * lattice.width.toNat :=
        row_end_le column (UInt32.lt_iff_toNat_lt.mp lower)
    _ ≤ lattice.index other := Nat.le_add_right _ _

theorem before_of_index_lt (otherInside : lattice.contains other = true)
    (ordered : lattice.index cell < lattice.index other) : cell.Before other := by
  by_cases lower : cell.y < other.y
  · exact .inl lower
  · have notHigher : ¬other.y < cell.y := fun higher =>
      Nat.lt_asymm ordered (index_lt_of_row_lt otherInside higher)
    have row : cell.y = other.y :=
      UInt32.le_antisymm (UInt32.not_lt.mp notHigher) (UInt32.not_lt.mp lower)
    rw [index, index, row] at ordered
    exact .inr ⟨row, UInt32.lt_iff_toNat_lt.mpr (Nat.lt_of_add_lt_add_left ordered)⟩

end Lattice

namespace Grid

variable {α : Type} {grid : Grid α} {cell : Cell} {value : α}

/-! ## One cell -/

theorem get_ok_iff : grid.get cell = .ok value ↔
    grid.lattice.contains cell = true ∧ grid.cells[grid.lattice.index cell]? = some value := by
  rw [get]
  split_ifs with inside
  · simp [inside, Array.getElem?_eq_getElem (index_lt_size inside)]
  · simp [inside]

theorem get_ok_exists (inside : grid.lattice.contains cell = true) :
    ∃ value, grid.get cell = .ok value := by
  rw [get, dif_pos inside]
  exact ⟨_, rfl⟩

theorem get_eq_of_stored {left right : Grid α} (lattice : left.lattice = right.lattice)
    (same : left.lattice.contains cell = true →
      left.cells[left.lattice.index cell]? = right.cells[right.lattice.index cell]?) :
    left.get cell = right.get cell := by
  by_cases inside : left.lattice.contains cell = true
  · obtain ⟨value, found⟩ := get_ok_exists inside
    obtain ⟨-, stored⟩ := get_ok_iff.mp found
    rw [same inside] at stored
    rw [lattice] at inside
    exact found.trans (get_ok_iff.mpr ⟨inside, stored⟩).symm
  · rw [get, get, dif_neg inside, dif_neg (lattice ▸ inside), lattice]

/-! ## The list of cells -/

theorem get_to_list (grid : Grid α) (index : Nat) :
    grid.toList[index]? =
      grid.cells[index]?.map fun value => (grid.lattice.cellAt index, value) := by
  rw [toList, List.getElem?_map, List.getElem?_zipIdx, Array.getElem?_toList, Option.map_map,
    Nat.zero_add]
  rfl

theorem mem_to_list_iff : (cell, value) ∈ grid.toList ↔ grid.get cell = .ok value := by
  rw [List.mem_iff_getElem?, get_ok_iff]
  constructor
  · rintro ⟨index, found⟩
    rw [get_to_list, Option.map_eq_some_iff] at found
    obtain ⟨stored, entry, same⟩ := found
    cases same
    have below : index < grid.lattice.area :=
      grid.sized ▸ (Array.getElem?_eq_some_iff.mp entry).1
    obtain ⟨inside, position⟩ := Lattice.index_cell_at below
    rw [position]
    exact ⟨inside, entry⟩
  · rintro ⟨inside, entry⟩
    refine ⟨grid.lattice.index cell, ?_⟩
    rw [get_to_list, entry, Lattice.cell_at_index inside]
    rfl

theorem cells_of_list (grid : Grid α) :
    grid.toList.map Prod.fst = (List.range grid.lattice.area).map grid.lattice.cellAt := by
  rw [← grid.sized, ← Array.length_toList, List.range_eq_range', ← List.zipIdx_map_snd 0,
    List.map_map, toList, List.map_map]
  rfl

theorem list_ordered (grid : Grid α) : (grid.toList.map Prod.fst).Pairwise Cell.Before := by
  rw [cells_of_list, List.pairwise_map]
  apply List.Pairwise.imp_of_mem _ List.pairwise_lt_range
  intro index other member otherMember ordered
  obtain ⟨-, position⟩ := Lattice.index_cell_at (List.mem_range.mp member)
  obtain ⟨inside, otherPosition⟩ := Lattice.index_cell_at (List.mem_range.mp otherMember)
  apply Lattice.before_of_index_lt inside
  rw [position, otherPosition]
  exact ordered

/-! ## One cell replaced -/

structure Replaced (grid : Grid α) (cell : Cell) (value : α) (after : Grid α) : Prop where
  lattice_eq : after.lattice = grid.lattice
  changed : after.get cell = .ok value
  kept : ∀ other, other ≠ cell → after.get other = grid.get other
  listed : after.toList =
    grid.toList.map fun entry => if entry.1 = cell then (cell, value) else entry

theorem set_ok_iff {after : Grid α} : grid.set cell value = .ok after ↔
    grid.lattice.contains cell = true ∧ after.lattice = grid.lattice ∧
      after.cells = grid.cells.modify (grid.lattice.index cell) fun _ => value := by
  cases after
  rw [set, modify]
  split_ifs with inside
  · simp [inside, eq_comm]
  · simp [inside]

theorem set_ok_exists (inside : grid.lattice.contains cell = true) (value : α) :
    ∃ after, grid.set cell value = .ok after := by
  rw [set, modify, if_pos inside]
  exact ⟨_, rfl⟩

theorem stored_of_set {after : Grid α} (done : grid.set cell value = .ok after) (index : Nat) :
    after.cells[index]? =
      grid.cells[index]?.map fun old => if grid.lattice.index cell = index then value else old := by
  rw [(set_ok_iff.mp done).2.2, Array.getElem?_modify]
  split_ifs with same
  · rfl
  · exact Option.map_id'.symm

theorem list_of_set {after : Grid α} (done : grid.set cell value = .ok after) :
    after.toList = grid.toList.map fun entry => if entry.1 = cell then (cell, value) else entry := by
  obtain ⟨inside, lattice, -⟩ := set_ok_iff.mp done
  apply List.ext_getElem?
  intro index
  rw [List.getElem?_map, get_to_list, get_to_list, stored_of_set done, lattice, Option.map_map,
    Option.map_map]
  apply Option.map_congr
  intro old entry
  have below : index < grid.lattice.area :=
    grid.sized ▸ (Array.getElem?_eq_some_iff.mp entry).1
  have position := (Lattice.index_cell_at below).2
  simp only [Function.comp_apply]
  by_cases same : grid.lattice.index cell = index
  · have here : grid.lattice.cellAt index = cell := by
      rw [← same, Lattice.cell_at_index inside]
    rw [if_pos same, if_pos here, here]
  · have apart : grid.lattice.cellAt index ≠ cell := by
      rintro rfl
      exact same position
    rw [if_neg same, if_neg apart]

theorem replaced_of_set {after : Grid α} (done : grid.set cell value = .ok after) :
    grid.Replaced cell value after := by
  obtain ⟨inside, lattice, -⟩ := set_ok_iff.mp done
  refine ⟨lattice, ?_, ?_, list_of_set done⟩
  · obtain ⟨old, found⟩ := get_ok_exists inside
    rw [get_ok_iff, lattice, stored_of_set done, (get_ok_iff.mp found).2, Option.map_some,
      if_pos rfl]
    exact ⟨inside, rfl⟩
  · intro other apart
    apply get_eq_of_stored lattice
    intro otherInside
    rw [lattice] at otherInside ⊢
    have elsewhere : grid.lattice.index cell ≠ grid.lattice.index other := fun same =>
      apart (Lattice.index_injective otherInside inside same.symm)
    simp only [stored_of_set done, elsewhere, if_false, Option.map_id']

/-! ## All of them -/

/-- The views show one assignment of values to the cells of the lattice, each value stored at its
own position, and replacing a value changes it in every view and nothing else in any. -/
structure ViewsAgree (grid : Grid α) : Prop where
  contained : ∀ cell, (∃ value, grid.get cell = .ok value) ↔ grid.lattice.contains cell = true
  stored : ∀ cell value, grid.get cell = .ok value →
    grid.cells[grid.lattice.index cell]? = some value
  apart : ∀ cell other, grid.lattice.contains cell = true → grid.lattice.contains other = true →
    grid.lattice.index cell = grid.lattice.index other → cell = other
  listed : ∀ cell value, (cell, value) ∈ grid.toList ↔ grid.get cell = .ok value
  once : (grid.toList.map Prod.fst).Nodup
  ordered : (grid.toList.map Prod.fst).Pairwise Cell.Before
  settable : ∀ cell value,
    (∃ after, grid.set cell value = .ok after) ↔ grid.lattice.contains cell = true
  replaced : ∀ cell value after, grid.set cell value = .ok after →
    grid.Replaced cell value after

theorem views_agree (grid : Grid α) : grid.ViewsAgree where
  contained cell := by
    constructor
    · rintro ⟨value, found⟩
      exact (get_ok_iff.mp found).1
    · exact get_ok_exists
  stored cell value found := (get_ok_iff.mp found).2
  apart cell other := Lattice.index_injective
  listed cell value := mem_to_list_iff
  once := (list_ordered grid).imp Cell.Before.ne
  ordered := list_ordered grid
  settable cell value := by
    constructor
    · rintro ⟨after, done⟩
      exact (set_ok_iff.mp done).1
    · intro inside
      exact set_ok_exists inside value
  replaced cell value after := replaced_of_set

example : (⟨⟨3, 2, 1, .zero⟩, #[0, 1, 2, 3, 4, 5], rfl⟩ : Grid Nat).toList =
    [(⟨0, 0⟩, 0), (⟨1, 0⟩, 1), (⟨2, 0⟩, 2), (⟨0, 1⟩, 3), (⟨1, 1⟩, 4), (⟨2, 1⟩, 5)] := by
  decide +kernel

end Grid

end EvidenceGrid

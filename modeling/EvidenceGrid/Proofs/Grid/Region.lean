import EvidenceGrid.Proofs.Grid.InPlace
import EvidenceGrid.Proofs.Grid.Views

/-!
Filling a region of a grid. Each row that the region and the lattice share is one run of entries,
and the run ends where the row does at the latest, so it never reaches the next row. A cell has
the value after the fill exactly when it lies in the region; corners may lie anywhere, in any
order.
-/

set_option autoImplicit false

namespace EvidenceGrid

/-- The cells from the least corner up to but not including the greatest one. -/
def Region.Has (region : Region) (cell : Cell) : Prop :=
  (region.min.x ≤ cell.x ∧ cell.x < region.max.x) ∧
    (region.min.y ≤ cell.y ∧ cell.y < region.max.y)

instance (region : Region) (cell : Cell) : Decidable (region.Has cell) :=
  inferInstanceAs (Decidable (_ ∧ _))

variable {α : Type}

theorem Runs.get_fill (entries : Array α) (start length : Nat) (value : α) {index : Nat}
    (room : index < entries.size) :
    (fill entries start length value)[index]? =
      if start ≤ index ∧ index < start + length then some value else entries[index]? := by
  induction length with
  | zero =>
      rw [if_neg (by omega)]
      rfl
  | succ length ih =>
      have sized := size_fill entries start length value
      have step : fill entries start (length + 1) value =
          (fill entries start length value).setIfInBounds (start + length) value := by
        rw [fill, List.range_succ, List.foldl_append, ← fill, List.foldl_cons, List.foldl_nil]
      rw [step, Array.getElem?_setIfInBounds, ih]
      by_cases last : start + length = index
      · rw [if_pos last, if_pos (by omega), if_pos (by omega)]
      · rw [if_neg last]
        congr 1
        simp only [eq_iff_iff]
        omega

namespace Grid

variable {lattice : Lattice} {cell : Cell} {left right : Nat}

theorem row_filled (inside : lattice.contains cell = true) (ordered : left ≤ right)
    (stop : right ≤ lattice.width.toNat) {cells : Array α} (sized : cells.size = lattice.area)
    (row : Nat) (value : α) :
    (Runs.fill cells (row * lattice.width.toNat + left) (right - left)
        value)[lattice.index cell]? =
      if cell.y.toNat = row ∧ left ≤ cell.x.toNat ∧ cell.x.toNat < right then some value
      else cells[lattice.index cell]? := by
  obtain ⟨⟨start, column⟩, -⟩ := (Lattice.contains_iff_covers lattice cell).mp inside
  have sameRow : (row : ℤ) * lattice.width.toNat + left ≤ lattice.position cell.place ∧
      lattice.position cell.place < row * lattice.width.toNat + right ↔
        cell.place.y = row ∧ left ≤ cell.place.x ∧ cell.place.x < right :=
    Lattice.row_of_position start column (Int.natCast_nonneg left) (Int.ofNat_le.mpr stop)
  rw [Lattice.position_place] at sameRow
  have place : cell.place = ⟨cell.x.toNat, cell.y.toNat⟩ := rfl
  have room : lattice.index cell < cells.size := sized ▸ Lattice.index_lt_area inside
  rw [Runs.get_fill _ _ _ _ room]
  congr 1
  rw [eq_iff_iff]
  simp only [place] at sameRow
  omega

theorem rows_filled (inside : lattice.contains cell = true) (ordered : left ≤ right)
    (stop : right ≤ lattice.width.toNat) {cells : Array α} (sized : cells.size = lattice.area)
    (bottom count : Nat) (value : α) :
    (((List.range count).map fun row =>
        ((bottom + row) * lattice.width.toNat + left, right - left)).foldl
      (fun cells run => Runs.fill cells run.1 run.2 value) cells)[lattice.index cell]? =
      if (left ≤ cell.x.toNat ∧ cell.x.toNat < right) ∧
          (bottom ≤ cell.y.toNat ∧ cell.y.toNat < bottom + count) then some value
      else cells[lattice.index cell]? := by
  induction count with
  | zero =>
      rw [if_neg (by omega)]
      rfl
  | succ count ih =>
      have kept := (Runs.size_foldl ((List.range count).map fun row =>
          ((bottom + row) * lattice.width.toNat + left, right - left))
        (fun cells run => Runs.fill cells run.1 run.2 value)
        (fun _ _ => Runs.size_fill _ _ _ _) cells).trans sized
      rw [List.range_succ, List.map_append, List.foldl_append, List.map_cons, List.map_nil,
        List.foldl_cons, List.foldl_nil, row_filled inside ordered stop kept, ih]
      by_cases last : cell.y.toNat = bottom + count ∧ left ≤ cell.x.toNat ∧ cell.x.toNat < right
      · rw [if_pos last, if_pos (by omega)]
      · rw [if_neg last]
        congr 1
        simp only [eq_iff_iff]
        omega

theorem fill_region_stored (grid : Grid α) (region : Region) (value : α)
    (inside : grid.lattice.contains cell = true) :
    (grid.fillRegion region value).cells[grid.lattice.index cell]? =
      if region.Has cell then some value else grid.cells[grid.lattice.index cell]? := by
  obtain ⟨right, top⟩ := clip_max grid.lattice region
  have bottom : (clip grid.lattice region).min.y.toNat = region.min.y.toNat := rfl
  have left : (clip grid.lattice region).min.x.toNat = region.min.x.toNat := rfl
  have clipped : region.Has cell ↔
      ((clip grid.lattice region).min.x.toNat ≤ cell.x.toNat ∧
        cell.x.toNat < (clip grid.lattice region).max.x.toNat) ∧
      ((clip grid.lattice region).min.y.toNat ≤ cell.y.toNat ∧
        cell.y.toNat < (clip grid.lattice region).max.y.toNat) := by
    simp only [Lattice.contains, Bool.and_eq_true, decide_eq_true_eq,
      UInt32.lt_iff_toNat_lt] at inside
    simp only [Region.Has, UInt32.le_iff_toNat_le, UInt32.lt_iff_toNat_lt]
    omega
  change ((regionRuns grid.lattice region).foldl
    (fun cells run => Runs.fill cells run.1 run.2 value) grid.cells)[_]? = _
  rw [regionRuns]
  simp only
  by_cases empty : (clip grid.lattice region).isEmpty = true
  · rw [if_pos empty, if_neg, List.foldl_nil]
    rw [is_empty_iff] at empty
    rw [clipped]
    omega
  · rw [if_neg empty]
    rw [is_empty_iff] at empty
    have last : (clip grid.lattice region).min.y.toNat + ((clip grid.lattice region).max.y.toNat -
        (clip grid.lattice region).min.y.toNat) = (clip grid.lattice region).max.y.toNat := by
      omega
    rw [rows_filled inside (by omega) (by omega) grid.sized, last]
    simp only [clipped]

theorem get_fill_region (grid : Grid α) (region : Region) (value : α) (cell : Cell) :
    (grid.fillRegion region value).get cell =
      if grid.lattice.contains cell = true ∧ region.Has cell then .ok value
      else grid.get cell := by
  split_ifs with here
  · refine get_ok_iff.mpr ⟨here.1, ?_⟩
    exact (fill_region_stored grid region value here.1).trans (if_pos here.2)
  · refine get_eq_of_stored rfl fun inside => ?_
    exact (fill_region_stored grid region value inside).trans
      (if_neg fun has => here ⟨inside, has⟩)

/-- Filling a region ends without a miss, wherever its corners are. Each of its runs goes along a
row of the region and stays among the entries. Afterwards the cells of the grid that lie in the
region have the value, and the lattice and all other cells are as they were. -/
theorem fill_region_exact (grid : Grid α) (region : Region) (value : α) :
    (Steps.of (.fillRegion region value)).run grid.store =
        .ok none (grid.fillRegion region value).store ∧
      (∀ run ∈ regionRuns grid.lattice region,
        RowRun grid.lattice region run ∧ run.1 + run.2 ≤ grid.cells.size) ∧
      (grid.fillRegion region value).lattice = grid.lattice ∧
      ∀ cell, (grid.fillRegion region value).get cell =
        if grid.lattice.contains cell = true ∧ region.Has cell then .ok value
        else grid.get cell := by
  refine ⟨?_, ?_, rfl, get_fill_region grid region value⟩
  · rw [edit_run]
    rfl
  · intro run member
    have along := row_run_of_mem member
    rw [grid.sized]
    exact ⟨along, along.inside⟩

/-- A region beyond the right edge does not reach into the next row, and one whose corners are in
the wrong order has no cell. -/
example :
    let grid : Grid Nat := ⟨⟨3, 2, 1, .zero⟩, #[0, 1, 2, 3, 4, 5], rfl⟩
    (grid.fillRegion ⟨⟨2, 0⟩, ⟨4294967295, 1⟩⟩ 9).cells = #[0, 1, 9, 3, 4, 5] ∧
      (grid.fillRegion ⟨⟨2, 0⟩, ⟨1, 2⟩⟩ 9).cells = grid.cells := by
  decide +kernel

end Grid

end EvidenceGrid

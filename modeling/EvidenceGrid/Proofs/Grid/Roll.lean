import Mathlib
import EvidenceGrid.Grid.Roll

/-!
What a roll does to the cells of a grid. The value at a place of the new window
is the value that the same ground had in the old one, and the entering value
where the old window did not reach. Places are signed, so a shift of any size
and sign is covered; the moved rows do not overlap, which makes the order of the
copies irrelevant.
-/

set_option autoImplicit false

namespace EvidenceGrid

namespace Runs

variable {α : Type}

theorem get_copy (entries origin : Array α) (target source length index : Nat)
    (enough : source + length ≤ origin.size) (room : index < entries.size) :
    (copy entries origin target source length)[index]? =
      if target ≤ index ∧ index < target + length then origin[source + (index - target)]?
      else entries[index]? := by
  induction length with
  | zero =>
      rw [if_neg (by omega)]
      rfl
  | succ length ih =>
      have sized := size_copy entries origin target source length
      have within : source + length < origin.size := by omega
      have step : copy entries origin target source (length + 1) =
          (copy entries origin target source length).setIfInBounds (target + length)
            origin[source + length] := by
        rw [copy, List.range_succ, List.foldl_append, ← copy, List.foldl_cons, List.foldl_nil,
          Array.getElem?_eq_getElem within]
      rw [step, Array.getElem?_setIfInBounds, ih (by omega)]
      rcases Nat.lt_trichotomy index (target + length) with before | rfl | after
      · rw [if_neg (by omega)]
        split_ifs <;> first | rfl | omega
      · rw [if_pos rfl, if_pos (by omega), if_pos (by omega), Nat.add_sub_cancel_left,
          Array.getElem?_eq_getElem (by omega)]
      · rw [if_neg (by omega), if_neg (by omega), if_neg (by omega)]

end Runs

namespace Offset

theorem eq_of_coordinates {left right : Offset} (x : left.x = right.x) (y : left.y = right.y) :
    left = right := by
  cases left
  cases right
  cases x
  cases y
  rfl

theorem add_zero (place : Offset) : place + zero = place :=
  eq_of_coordinates (Int.add_zero _) (Int.add_zero _)

theorem add_sub_cancel_right (place corner : Offset) : place + corner - corner = place :=
  eq_of_coordinates (Int.add_sub_cancel _ _) (Int.add_sub_cancel _ _)

theorem add_add_right_comm (place corner shift : Offset) :
    place + (corner + shift) = place + shift + corner :=
  eq_of_coordinates (add_left_comm place.x corner.x shift.x |>.trans (add_comm _ _))
    (add_left_comm place.y corner.y shift.y |>.trans (add_comm _ _))

end Offset

def Cell.place (cell : Cell) : Offset := ⟨cell.x.toNat, cell.y.toNat⟩

namespace Lattice

def Covers (lattice : Lattice) (place : Offset) : Prop :=
  (0 ≤ place.x ∧ place.x < lattice.width.toNat) ∧ (0 ≤ place.y ∧ place.y < lattice.height.toNat)

instance (lattice : Lattice) (place : Offset) : Decidable (lattice.Covers place) :=
  inferInstanceAs (Decidable (_ ∧ _))

def position (lattice : Lattice) (place : Offset) : Int :=
  place.y * lattice.width.toNat + place.x

theorem contains_iff_covers (lattice : Lattice) (cell : Cell) :
    lattice.contains cell = true ↔ lattice.Covers cell.place := by
  simp only [contains, Bool.and_eq_true, decide_eq_true_eq, UInt32.lt_iff_toNat_lt, Covers,
    Cell.place]
  omega

theorem position_place (lattice : Lattice) (cell : Cell) :
    lattice.position cell.place = lattice.index cell := by
  simp only [position, Cell.place, index]
  push_cast
  rfl

theorem position_bounds {lattice : Lattice} {place : Offset} (covers : lattice.Covers place) :
    0 ≤ lattice.position place ∧ lattice.position place < lattice.area := by
  obtain ⟨⟨left, right⟩, bottom, top⟩ := covers
  simp only [position, area]
  push_cast
  constructor
  · exact add_nonneg (mul_nonneg bottom (by omega)) left
  · have : (place.y + 1) * lattice.width.toNat ≤ lattice.height.toNat * lattice.width.toNat :=
      mul_le_mul_of_nonneg_right (by omega) (by omega)
    nlinarith

theorem row_of_position {width row column other first last : Int} (left : 0 ≤ column)
    (right : column < width) (start : 0 ≤ first) (stop : last ≤ width) :
    (other * width + first ≤ row * width + column ∧ row * width + column < other * width + last) ↔
      row = other ∧ first ≤ column ∧ column < last := by
  constructor
  · rintro ⟨above, below⟩
    rcases lt_trichotomy row other with lower | same | higher
    · have : (row + 1) * width ≤ other * width :=
        mul_le_mul_of_nonneg_right (by omega) (by omega)
      nlinarith
    · subst same
      omega
    · have : (other + 1) * width ≤ row * width :=
        mul_le_mul_of_nonneg_right (by omega) (by omega)
      nlinarith
  · rintro ⟨rfl, above, below⟩
    omega

end Lattice

namespace Grid

variable {α : Type}

def valueAt? (grid : Grid α) (place : Offset) : Option α :=
  if grid.lattice.Covers place then grid.cells[(grid.lattice.position place).toNat]? else none

theorem index_lt_size {grid : Grid α} {cell : Cell}
    (inside : grid.lattice.contains cell = true) : grid.lattice.index cell < grid.cells.size :=
  grid.sized ▸ Lattice.index_lt_area inside

theorem get_eq_value_at (grid : Grid α) (cell : Cell) :
    grid.get cell = (grid.valueAt? cell.place).elim (.error (grid.lattice.outside cell)) .ok := by
  rw [get, valueAt?]
  split_ifs with inside covers covers
  · rw [Lattice.position_place, Int.toNat_natCast,
      Array.getElem?_eq_getElem (index_lt_size inside)]
    rfl
  · exact absurd ((Lattice.contains_iff_covers _ _).mp inside) covers
  · exact absurd ((Lattice.contains_iff_covers _ _).mpr covers) inside
  · rfl

theorem value_at_isSome {grid : Grid α} {place : Offset} (covers : grid.lattice.Covers place) :
    (grid.valueAt? place).isSome = true := by
  have bounds := Lattice.position_bounds covers
  rw [valueAt?, if_pos covers, Array.getElem?_eq_getElem (by rw [grid.sized]; omega)]
  rfl

def rowMove (lattice : Lattice) (shift : Offset) (left right row : Int) : RowMove :=
  { target := row * lattice.width.toNat + left
    source := (row + shift.y) * lattice.width.toNat + left + shift.x
    length := right - left }

theorem row_moves_eq (lattice : Lattice) (shift : Offset) :
    rowMoves lattice shift =
      let width : Int := lattice.width.toNat
      let height : Int := lattice.height.toNat
      if within width (-shift.x) < within width (width - shift.x) then
        (List.range (within height (height - shift.y) - within height (-shift.y)).toNat).map
          fun (step : Nat) =>
            rowMove lattice shift (within width (-shift.x)) (within width (width - shift.x))
              (within height (-shift.y) + step)
      else [] := rfl

/-- A run of columns in a row of the new window that the old one has too. -/
structure Kept (lattice : Lattice) (shift : Offset) (left right row : Int) : Prop where
  ordered : left ≤ right
  columns : 0 ≤ left ∧ right ≤ lattice.width.toNat
  oldColumns : 0 ≤ left + shift.x ∧ right + shift.x ≤ lattice.width.toNat
  inside : 0 ≤ row
  oldInside : 0 ≤ row + shift.y ∧ row + shift.y < lattice.height.toNat

theorem row_copied (grid : Grid α) {cells : Array α} (sized : cells.size = grid.cells.size)
    {shift : Offset} {left right row : Int} (kept : Kept grid.lattice shift left right row)
    {place : Offset} (covers : grid.lattice.Covers place) :
    (Runs.copy cells grid.cells (rowMove grid.lattice shift left right row).target.toNat
        (rowMove grid.lattice shift left right row).source.toNat
        (rowMove grid.lattice shift left right row).length.toNat)[(grid.lattice.position
          place).toNat]? =
      if place.y = row ∧ left ≤ place.x ∧ place.x < right then
        grid.cells[(grid.lattice.position (place + shift)).toNat]?
      else cells[(grid.lattice.position place).toNat]? := by
  have bounds := Lattice.position_bounds covers
  obtain ⟨ordered, ⟨start, stop⟩, ⟨oldStart, oldStop⟩, base, oldBase, oldTop⟩ := kept
  set width : Int := (grid.lattice.width.toNat : Int) with widthDef
  -- The row read from lies on the old grid.
  have oldNonneg : 0 ≤ (row + shift.y) * width := mul_nonneg oldBase (by omega)
  have oldRow : (row + shift.y + 1) * width ≤ grid.lattice.height.toNat * width :=
    mul_le_mul_of_nonneg_right (by omega) (by omega)
  have oldSplit : (row + shift.y + 1) * width = (row + shift.y) * width + width := by ring
  have area : (grid.cells.size : Int) = grid.lattice.height.toNat * width := by
    rw [grid.sized, Lattice.area]
    push_cast
    ring
  have targetNonneg : 0 ≤ row * width := mul_nonneg base (by omega)
  have target : (rowMove grid.lattice shift left right row).target = row * width + left := rfl
  have source : (rowMove grid.lattice shift left right row).source =
      (row + shift.y) * width + left + shift.x := rfl
  have length : (rowMove grid.lattice shift left right row).length = right - left := rfl
  have room : (grid.lattice.position place).toNat < cells.size := by
    rw [sized, grid.sized]
    omega
  rw [target, source, length, Runs.get_copy _ _ _ _ _ _ (by omega) room]
  have sameRow : row * width + left ≤ place.y * width + place.x ∧
      place.y * width + place.x < row * width + right ↔
        place.y = row ∧ left ≤ place.x ∧ place.x < right :=
    Lattice.row_of_position covers.1.1 covers.1.2 start stop
  have index : grid.lattice.position place = place.y * width + place.x := rfl
  have moved : grid.lattice.position (place + shift) =
      (place.y + shift.y) * width + (place.x + shift.x) := rfl
  by_cases here : place.y = row ∧ left ≤ place.x ∧ place.x < right
  · have within := sameRow.mpr here
    rw [if_pos (by omega), if_pos here, moved, here.1]
    congr 1
    rw [index, here.1]
    omega
  · have beyond := mt sameRow.mp here
    rw [if_neg (by omega), if_neg here]

theorem rows_copied (grid : Grid α) (shift : Offset) (entering : α) {left right bottom : Int}
    (count : Nat)
    (kept : ∀ step : Nat, step < count → Kept grid.lattice shift left right (bottom + step))
    {place : Offset} (covers : grid.lattice.Covers place) :
    (((List.range count).map fun (step : Nat) =>
      rowMove grid.lattice shift left right (bottom + step)).foldl
        (fun cells move =>
          Runs.copy cells grid.cells move.target.toNat move.source.toNat move.length.toNat)
        (Array.replicate grid.cells.size entering))[(grid.lattice.position place).toNat]? =
      if (bottom ≤ place.y ∧ place.y < bottom + count) ∧ left ≤ place.x ∧ place.x < right then
        grid.cells[(grid.lattice.position (place + shift)).toNat]?
      else some entering := by
  have bounds := Lattice.position_bounds covers
  induction count with
  | zero =>
      rw [if_neg (by omega), List.range_zero, List.map_nil, List.foldl_nil,
        Array.getElem?_replicate, if_pos (by rw [grid.sized]; omega)]
  | succ count ih =>
      rw [List.range_succ, List.map_append, List.foldl_append, List.map_cons, List.map_nil,
        List.foldl_cons, List.foldl_nil]
      have done := ih fun step below => kept step (by omega)
      have sized := (Runs.size_foldl (List.map (fun (step : Nat) =>
          rowMove grid.lattice shift left right (bottom + step)) (List.range count))
        (fun cells move =>
          Runs.copy cells grid.cells move.target.toNat move.source.toNat move.length.toNat)
        (fun _ _ => Runs.size_copy _ _ _ _ _) (Array.replicate grid.cells.size entering)).trans
          Array.size_replicate
      rw [row_copied grid sized (kept count (by omega)) covers, done]
      by_cases last : place.y = bottom + count ∧ left ≤ place.x ∧ place.x < right
      · rw [if_pos last, if_pos (by omega)]
      · rw [if_neg last]
        congr 1
        simp only [eq_iff_iff]
        omega

theorem value_shifted (grid : Grid α) (shift : Offset) (entering : α) {place : Offset}
    (covers : grid.lattice.Covers place) :
    (grid.shifted shift entering)[(grid.lattice.position place).toNat]? =
      some ((grid.valueAt? (place + shift)).getD entering) := by
  have bounds := Lattice.position_bounds covers
  have reached : grid.lattice.Covers (place + shift) ↔
      (0 ≤ place.x + shift.x ∧ place.x + shift.x < grid.lattice.width.toNat) ∧
        (0 ≤ place.y + shift.y ∧ place.y + shift.y < grid.lattice.height.toNat) := Iff.rfl
  have value : grid.valueAt? (place + shift) = if grid.lattice.Covers (place + shift) then
      grid.cells[(grid.lattice.position (place + shift)).toNat]? else none := rfl
  obtain ⟨⟨afterLeft, beforeRight⟩, afterBottom, beforeTop⟩ := covers
  rw [shifted, row_moves_eq]
  simp only
  have leftDef : within grid.lattice.width.toNat (-shift.x) = max 0 (min (-shift.x) _) := rfl
  have rightDef : within grid.lattice.width.toNat (grid.lattice.width.toNat - shift.x) =
    max 0 (min (grid.lattice.width.toNat - shift.x) _) := rfl
  have bottomDef : within grid.lattice.height.toNat (-shift.y) = max 0 (min (-shift.y) _) := rfl
  have topDef : within grid.lattice.height.toNat (grid.lattice.height.toNat - shift.y) =
    max 0 (min (grid.lattice.height.toNat - shift.y) _) := rfl
  set left := within grid.lattice.width.toNat (-shift.x)
  set right := within grid.lattice.width.toNat (grid.lattice.width.toNat - shift.x)
  set bottom := within grid.lattice.height.toNat (-shift.y)
  set top := within grid.lattice.height.toNat (grid.lattice.height.toNat - shift.y)
  have untouched : (Array.replicate grid.cells.size entering)[(grid.lattice.position
      place).toNat]? = some entering := by
    rw [Array.getElem?_replicate, if_pos (by rw [grid.sized]; omega)]
  by_cases some : left < right ∧ bottom < top
  · have kept (step : Nat) (below : step < (top - bottom).toNat) :
        Kept grid.lattice shift left right (bottom + step) := by
      constructor <;> omega
    rw [if_pos some.1, rows_copied grid shift entering (top - bottom).toNat kept
      ⟨⟨afterLeft, beforeRight⟩, afterBottom, beforeTop⟩]
    by_cases covered : grid.lattice.Covers (place + shift)
    · have inside := reached.mp covered
      have found := value_at_isSome covered
      rw [if_pos (by omega)]
      rw [value, if_pos covered] at found ⊢
      obtain ⟨kept, same⟩ := Option.isSome_iff_exists.mp found
      rw [same, Option.getD_some]
    · rw [if_neg (fun kept => covered (reached.mpr (by omega))), value, if_neg covered,
        Option.getD_none]
  · -- Nothing stays, so the old window reaches no place of the new one.
    have outside : ¬grid.lattice.Covers (place + shift) := by
      intro covered
      have inside := reached.mp covered
      omega
    rw [value, if_neg outside, Option.getD_none]
    by_cases columns : left < right
    · have noRows : (top - bottom).toNat = 0 := by omega
      rw [if_pos columns, noRows, List.range_zero, List.map_nil, List.foldl_nil, untouched]
    · rw [if_neg columns, List.foldl_nil, untouched]

structure RolledBy (grid : Grid α) (origin : Point) (entering : α) (rolled : Grid α)
    (shift : Offset) : Prop where
  finite : (grid.lattice.snap origin).isFinite = true
  shift_eq : shift = grid.lattice.shiftTo origin
  lattice_eq : rolled.lattice =
    { grid.lattice with
      origin := if shift = .zero then grid.lattice.origin else grid.lattice.snap origin }
  value_eq : ∀ place, grid.lattice.Covers place →
    rolled.valueAt? place = some ((grid.valueAt? (place + shift)).getD entering)

theorem rolled_by_of_roll_to {grid rolled : Grid α} {origin : Point} {entering : α}
    {shift : Offset} (run : grid.rollTo origin entering = .ok (rolled, shift)) :
    grid.RolledBy origin entering rolled shift := by
  simp only [rollTo] at run
  split_ifs at run with refused still
  · have finite : (grid.lattice.snap origin).isFinite = true := by simpa using refused
    cases run
    refine ⟨finite, rfl, by rw [if_pos still], ?_⟩
    intro place covers
    obtain ⟨value, found⟩ := Option.isSome_iff_exists.mp (value_at_isSome covers)
    rw [still, Offset.add_zero, found, Option.getD_some]
  · have finite : (grid.lattice.snap origin).isFinite = true := by simpa using refused
    cases run
    refine ⟨finite, rfl, by rw [if_neg still]; rfl, ?_⟩
    intro place covers
    have moved : Lattice.Covers { grid.lattice with origin := grid.lattice.snap origin } place :=
      covers
    refine (if_pos moved).trans ?_
    exact value_shifted grid (grid.lattice.shiftTo origin) entering covers

theorem roll_to_error_iff {grid : Grid α} {origin : Point} {entering : α} {fault : Fault} :
    grid.rollTo origin entering = .error fault ↔
      (grid.lattice.snap origin).isFinite = false ∧
        fault = .geometry (.originNotFinite origin) := by
  simp only [rollTo]
  split_ifs with refused still
  · have infinite : (grid.lattice.snap origin).isFinite = false := by simpa using refused
    rw [infinite, Except.error.injEq, eq_comm]
    simp
  · have finite : (grid.lattice.snap origin).isFinite = true := by simpa using refused
    simp [finite]
  · have finite : (grid.lattice.snap origin).isFinite = true := by simpa using refused
    simp [finite]

end Grid

end EvidenceGrid

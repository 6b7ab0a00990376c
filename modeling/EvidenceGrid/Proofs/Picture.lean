import EvidenceGrid.Picture
import EvidenceGrid.Proofs.Belief.Cost
import EvidenceGrid.Proofs.Lattice.Cell
import EvidenceGrid.Proofs.Mapper.Run

/-!
The picture of a published map. Turning the rows upside down twice leaves every value where it
was, and the grays of the published alphabet are two or three apart with the gray of the unknown
between two of them, so both steps can be undone: the values are read back from the picture. What
a mapper publishes is of this kind.
-/

set_option autoImplicit false

namespace EvidenceGrid

/-! ## Grays -/

namespace Cost

def InAlphabet (value : Int8) : Prop := -1 ≤ value ∧ value ≤ 100

instance (value : Int8) : Decidable (InAlphabet value) := inferInstanceAs (Decidable (_ ∧ _))

def ofGray (shade : UInt8) : Int8 :=
  if shade = unknownGray then unknown else Int8.ofNat (((254 - shade.toNat) * 100 + 253) / 254)

theorem gray_unknown : gray unknown = unknownGray := if_pos rfl

theorem gray_percent {value : Int8} (known : value ≠ unknown) {percent : Nat}
    (same : value.toInt = percent) (few : percent ≤ 100) :
    (gray value).toNat = 254 - percent * 254 / 100 := by
  have held : (max 0 (min value.toInt 100)).toNat = percent := by omega
  rw [gray, if_neg known]
  simp only [held]
  exact UInt8.toNat_ofNat_of_lt' (by change _ < 2 ^ 8; omega)

/-- No percentage has the gray of the unknown, which is 49 below white. -/
theorem percent_gray_ne (percent : Nat) : percent * 254 / 100 ≠ 49 := by omega

theorem percent_of_gray (percent : Nat) : (percent * 254 / 100 * 100 + 253) / 254 = percent := by
  omega

theorem of_gray_gray {value : Int8} (published : InAlphabet value) :
    ofGray (gray value) = value := by
  by_cases known : value = unknown
  · rw [known, gray_unknown, ofGray, if_pos rfl]
  · obtain ⟨low, high⟩ := published
    rw [Int8.le_iff_toInt_le] at low high
    have apart : value.toInt ≠ -1 := fun same => known (Int8.toInt_inj.mp same)
    change -1 ≤ value.toInt at low
    change value.toInt ≤ 100 at high
    obtain ⟨percent, same⟩ := Int.eq_ofNat_of_zero_le (show 0 ≤ value.toInt by omega)
    have shade := gray_percent known same (by omega)
    have marked : gray value ≠ unknownGray := by
      intro gray
      rw [gray, show unknownGray.toNat = 205 from rfl] at shade
      have := percent_gray_ne percent
      omega
    have darkness : 254 - (254 - percent * 254 / 100) = percent * 254 / 100 := by omega
    rw [ofGray, if_neg marked, shade, darkness, percent_of_gray, ← Int8.toInt_inj, same]
    exact Int8.toInt_ofNat_of_lt (by omega)

end Cost

/-! ## Rows -/

namespace Picture

def turned (width height position : Nat) : Nat :=
  (height - 1 - position / width) * width + position % width

section Turned

variable {width height column row position : Nat}

theorem turned_place (inside : column < width) :
    turned width height (row * width + column) = (height - 1 - row) * width + column := by
  have positive : 0 < width := Nat.zero_lt_of_lt inside
  rw [turned, Nat.add_comm (row * width), Nat.add_mul_div_right _ _ positive,
    Nat.div_eq_of_lt inside, Nat.zero_add, Nat.add_mul_mod_self_right, Nat.mod_eq_of_lt inside]

theorem place_lt (inside : column < width) (below : row < height) :
    row * width + column < width * height := by
  calc row * width + column
      < row * width + (column + 1) := Nat.lt_succ_self _
    _ ≤ height * width := Lattice.row_end_le inside below
    _ = width * height := Nat.mul_comm _ _

theorem exists_place (below : position < width * height) :
    ∃ column row, column < width ∧ row < height ∧ position = row * width + column := by
  have positive : 0 < width := Nat.pos_of_mul_pos_right (Nat.zero_lt_of_lt below)
  exact ⟨position % width, position / width, Nat.mod_lt _ positive,
    Nat.div_lt_of_lt_mul below, (Nat.div_add_mod' _ _).symm⟩

theorem turned_lt (below : position < width * height) :
    turned width height position < width * height := by
  obtain ⟨column, row, inside, rowBelow, rfl⟩ := exists_place below
  rw [turned_place inside]
  exact place_lt inside (by omega)

theorem turned_turned (below : position < width * height) :
    turned width height (turned width height position) = position := by
  obtain ⟨column, row, inside, rowBelow, rfl⟩ := exists_place below
  have back : height - 1 - (height - 1 - row) = row := by omega
  rw [turned_place inside, turned_place inside, back]

end Turned

/-- The gray at a column and a row, counted from the left and from the top. -/
def pixel? (picture : Picture) (column row : Nat) : Option UInt8 :=
  if column < picture.width.toNat ∧ row < picture.height.toNat then
    picture.pixels[row * picture.width.toNat + column]?
  else none

def values (picture : Picture) : Array Int8 :=
  Array.ofFn fun (position : Fin (picture.width.toNat * picture.height.toNat)) =>
    Cost.ofGray (picture.pixels.getD
      (turned picture.width.toNat picture.height.toNat position) Cost.unknownGray)

/-- A picture of a map's size that has the map's lowest row at the bottom. Values that the map
lacks are shown as unknown, and none from its area on is shown. -/
structure Shows (picture : Picture) (snapshot : Snapshot) : Prop where
  width : picture.width = snapshot.lattice.width
  height : picture.height = snapshot.lattice.height
  filled : picture.pixels.size = snapshot.lattice.width.toNat * snapshot.lattice.height.toNat
  pixel : ∀ column row, column < snapshot.lattice.width.toNat →
    row < snapshot.lattice.height.toNat → ∃ position < snapshot.lattice.area,
      position = (snapshot.lattice.height.toNat - 1 - row) * snapshot.lattice.width.toNat + column ∧
      picture.pixel? column row =
        some (Cost.gray (snapshot.values.getD position Cost.unknown))

end Picture

namespace Snapshot

structure Published (snapshot : Snapshot) : Prop where
  sized : snapshot.values.size = snapshot.lattice.area
  alphabet : ∀ value ∈ snapshot.values, Cost.InAlphabet value

variable {snapshot : Snapshot}

theorem picture_entry {position : Nat} (below : position < snapshot.lattice.area) :
    snapshot.picture.pixels[position]? = some (Cost.gray (snapshot.values.getD
      (Picture.turned snapshot.lattice.width.toNat snapshot.lattice.height.toNat position)
      Cost.unknown)) := by
  rw [picture, Array.getElem?_ofFn, dif_pos below]
  rfl

theorem picture_shows (snapshot : Snapshot) : snapshot.picture.Shows snapshot := by
  refine ⟨rfl, rfl, Array.size_ofFn, ?_⟩
  intro column row inside below
  refine ⟨_, Picture.place_lt inside (by omega), rfl, ?_⟩
  rw [Picture.pixel?, if_pos ⟨inside, below⟩]
  refine (picture_entry (Picture.place_lt inside below)).trans ?_
  rw [Picture.turned_place inside]

theorem values_of_picture (published : snapshot.Published) :
    snapshot.picture.values = snapshot.values := by
  apply Array.ext_getElem?
  intro position
  rw [Picture.values, Array.getElem?_ofFn]
  by_cases below : position < snapshot.lattice.area
  · have bound : position < snapshot.values.size := published.sized ▸ below
    have shown := picture_entry (Picture.turned_lt below)
    rw [Picture.turned_turned below] at shown
    have stored : snapshot.values.getD position Cost.unknown = snapshot.values[position] := by
      rw [Array.getD_eq_getD_getElem?, Array.getElem?_eq_getElem bound, Option.getD_some]
    have value := Cost.of_gray_gray (published.alphabet _ (Array.getElem_mem bound))
    refine (dif_pos below).trans ?_
    rw [Array.getD_eq_getD_getElem?]
    change some (Cost.ofGray ((snapshot.picture.pixels[Picture.turned
      snapshot.lattice.width.toNat snapshot.lattice.height.toNat position]?).getD _)) = _
    rw [shown, Option.getD_some, stored, value, Array.getElem?_eq_getElem bound]
  · have beyond : snapshot.values.size ≤ position := by
      rw [published.sized]
      exact not_lt.mp below
    rw [Array.getElem?_eq_none beyond]
    exact dif_neg below

end Snapshot

/-! ## What a mapper publishes -/

theorem Belief.cost_in_alphabet (belief : Belief) : Cost.InAlphabet belief.cost := by
  rw [Cost.InAlphabet, Int8.le_iff_toInt_le, Int8.le_iff_toInt_le]
  cases unknown : belief.logOdds == 0 with
  | true =>
      have same : belief.cost = Cost.unknown := (cost_unknown_iff Float32.exp).mpr unknown
      rw [same]
      decide
  | false =>
      obtain ⟨low, high⟩ := cost_between Float32.exp unknown
      change -1 ≤ (belief.costBy Float32.exp).toInt ∧ (belief.costBy Float32.exp).toInt ≤ 100
      omega

theorem Occupancy.cost_in_alphabet (state : Occupancy) : Cost.InAlphabet state.cost := by
  cases state <;> decide

theorem Frame.snapshot_published (frame : Frame) : frame.snapshot.Published where
  sized := Array.size_map.trans frame.grid.sized
  alphabet value member := by
    obtain ⟨state, -, rfl⟩ := Array.mem_map.mp member
    exact state.cost_in_alphabet

namespace Mapper

variable {mapper : Mapper}

theorem snapshot_published (mapper : Mapper) : mapper.snapshot.Published where
  sized := Array.size_map.trans mapper.beliefs.grid.sized
  alphabet value member := by
    obtain ⟨belief, -, rfl⟩ := Array.mem_map.mp member
    exact belief.cost_in_alphabet

theorem integrate_published {frame : Frame} {publication : Publication}
    (ran : (mapper.integrate frame).2 = .ok publication) : publication.snapshot.Published := by
  rw [integrate] at ran
  simp only at ran
  split_ifs at ran
  · cases ran
    exact frame.snapshot_published
  · split at ran
    · cases ran
    · cases ran
      exact snapshot_published _

theorem call_published {call : Call} {publication : Publication}
    (ran : (mapper.call call).2 = .ok (some publication)) : publication.snapshot.Published := by
  rcases call_cases mapper call with ⟨frame, -, called⟩ | ⟨-, called⟩ | ⟨fault, -, called⟩
  · rw [called] at ran
    cases integrated : (mapper.integrate frame).2 with
    | error fault =>
        rw [integrated] at ran
        cases ran
    | ok other =>
        rw [integrated] at ran
        cases ran
        exact integrate_published integrated
  · rw [called] at ran
    cases ran
  · rw [called] at ran
    cases ran

end Mapper

namespace Snapshot

/-- The picture of a map shows every value in its place, and shows a published map without loss:
its values are read back, so maps with one picture have the same values. All that a mapper
publishes, of its map or after a call, is published in this sense. -/
theorem picture_lossless :
    (∀ snapshot : Snapshot, snapshot.picture.Shows snapshot) ∧
      (∀ snapshot : Snapshot, snapshot.Published → snapshot.picture.values = snapshot.values) ∧
      (∀ left right : Snapshot, left.Published → right.Published →
        left.picture = right.picture → left.values = right.values) ∧
      ∀ mapper : Mapper, mapper.snapshot.Published ∧
        ∀ call publication, (mapper.call call).2 = .ok (some publication) →
          publication.snapshot.Published := by
  refine ⟨picture_shows, fun snapshot => values_of_picture, ?_, fun mapper => ?_⟩
  · intro left right leftPublished rightPublished same
    rw [← values_of_picture leftPublished, same, values_of_picture rightPublished]
  · exact ⟨mapper.snapshot_published, fun call publication => Mapper.call_published⟩

/-- Two rows of two cells: the upper one is drawn first, and the gray of 19 percent is next to the
gray of the unknown. -/
theorem picture_lossless_two_rows :
    let snapshot : Snapshot := ⟨⟨2, 2, 1, .zero⟩, 0, #[-1, 0, 100, 19]⟩
    snapshot.Published ∧ snapshot.picture.pixels = #[0, 206, 205, 254] ∧
      snapshot.picture.Shows snapshot ∧ snapshot.picture.values = snapshot.values ∧
      ∀ other : Snapshot, other.Published → other.picture = snapshot.picture →
        other.values = snapshot.values := by
  intro snapshot
  have alphabet (value : Int8) (member : value ∈ snapshot.values) : Cost.InAlphabet value := by
    simp only [snapshot, List.mem_toArray, List.mem_cons, List.not_mem_nil, or_false] at member
    rcases member with rfl | rfl | rfl | rfl <;> decide
  have published : snapshot.Published := ⟨rfl, alphabet⟩
  obtain ⟨shows, recovered, injective, -⟩ := picture_lossless
  exact ⟨published, by decide +kernel, shows snapshot, recovered snapshot published,
    fun other otherPublished => injective other snapshot otherPublished published⟩

end Snapshot

end EvidenceGrid

import EvidenceGrid.Cloud

/-!
What the filters of point clouds keep, and what one more point changes. Cropping and
matching keep a point for what it is and not for where it stands, so each is a filter
of a list. A point put in among others is followed by splitting the list there.
-/

set_option autoImplicit false

namespace EvidenceGrid

def Inserted {α : Type} (item : α) (items longer : List α) : Prop :=
  ∃ before after, items = before ++ after ∧ longer = before ++ item :: after

namespace Inserted

variable {α β : Type} {item : α} {items longer : List α}

theorem mem_iff (inserted : Inserted item items longer) {other : α} :
    other ∈ longer ↔ other = item ∨ other ∈ items := by
  obtain ⟨before, after, rfl, rfl⟩ := inserted
  simp only [List.mem_append, List.mem_cons]
  exact or_left_comm

theorem length_eq (inserted : Inserted item items longer) :
    longer.length = items.length + 1 := by
  obtain ⟨before, after, rfl, rfl⟩ := inserted
  simp only [List.length_append, List.length_cons, Nat.add_assoc]

theorem map (inserted : Inserted item items longer) (image : α → β) :
    Inserted (image item) (items.map image) (longer.map image) := by
  obtain ⟨before, after, rfl, rfl⟩ := inserted
  exact ⟨before.map image, after.map image, List.map_append, by simp⟩

theorem append_left (inserted : Inserted item items longer) (front : List α) :
    Inserted item (front ++ items) (front ++ longer) := by
  obtain ⟨before, after, rfl, rfl⟩ := inserted
  exact ⟨front ++ before, after, by simp, by simp⟩

theorem append_right (inserted : Inserted item items longer) (back : List α) :
    Inserted item (items ++ back) (longer ++ back) := by
  obtain ⟨before, after, rfl, rfl⟩ := inserted
  exact ⟨before, after ++ back, by simp, by simp⟩

theorem filter_kept (inserted : Inserted item items longer) {keep : α → Bool}
    (kept : keep item = true) : Inserted item (items.filter keep) (longer.filter keep) := by
  obtain ⟨before, after, rfl, rfl⟩ := inserted
  exact ⟨before.filter keep, after.filter keep, by simp, by simp [kept]⟩

theorem filter_dropped (inserted : Inserted item items longer) {keep : α → Bool}
    (dropped : keep item = false) : longer.filter keep = items.filter keep := by
  obtain ⟨before, after, rfl, rfl⟩ := inserted
  simp [dropped]

end Inserted

/-- Two lists hold the same, but for one item that the second may have more. -/
def SameBut {α : Type} (item : α) (items longer : List α) : Prop :=
  longer = items ∨ Inserted item items longer

theorem SameBut.filter {α : Type} {item : α} {items longer : List α}
    (same : SameBut item items longer) (keep : α → Bool) :
    SameBut item (items.filter keep) (longer.filter keep) := by
  rcases same with rfl | inserted
  · exact Or.inl rfl
  · cases choice : keep item with
    | false => exact Or.inl (inserted.filter_dropped choice)
    | true => exact Or.inr (inserted.filter_kept choice)

namespace Cloud

/-- Whether a return counts as one with a point, because their cubes are the same or touch. -/
def touches (tolerance : Float32) (point other : Point3) : Bool :=
  (Voxel.of tolerance point).neighborhood.contains (Voxel.of tolerance other)

theorem matching_eq_filter (cloud others : Cloud) (tolerance : Float32) :
    cloud.matching others tolerance =
      cloud.filter fun point => others.any (touches tolerance point) := by
  rw [matching]
  apply List.filter_congr
  intro point _
  rw [Bool.eq_iff_iff, List.any_eq_true, List.any_eq_true]
  simp only [Std.HashSet.contains_ofList, touches, List.contains_iff_mem, List.mem_map]
  constructor
  · rintro ⟨voxel, near, other, member, rfl⟩
    exact ⟨other, member, near⟩
  · rintro ⟨other, member, near⟩
    exact ⟨_, near, other, member, rfl⟩

/-- The greatest word touches the least one, so a point far out counts as one with its opposite. -/
example : Cloud.matching [⟨5, 0, 0⟩, ⟨30000000, 0, 0⟩] [⟨-30000000, 0, 0⟩] 0.01 =
    [⟨30000000, 0, 0⟩] := by
  rw [matching_eq_filter]
  decide +kernel

end Cloud

end EvidenceGrid

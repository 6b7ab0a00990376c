/-!
Runs of neighbouring entries in an array: filling one with a value and copying
one out of another array. Entries that an index would miss are left alone, so
both keep the number of entries; that the runs of a grid never miss any is a
fact about the grid and is not assumed here.
-/

set_option autoImplicit false

namespace EvidenceGrid.Runs

variable {α : Type}

def fill (entries : Array α) (start length : Nat) (value : α) : Array α :=
  (List.range length).foldl (fun filled step => filled.setIfInBounds (start + step) value) entries

def copy (entries origin : Array α) (target source length : Nat) : Array α :=
  (List.range length).foldl
    (fun filled step =>
      match origin[source + step]? with
      | some value => filled.setIfInBounds (target + step) value
      | none => filled)
    entries

theorem size_foldl {σ : Type} (steps : List σ) (change : Array α → σ → Array α)
    (keeps : ∀ entries step, (change entries step).size = entries.size) (entries : Array α) :
    (steps.foldl change entries).size = entries.size := by
  induction steps generalizing entries with
  | nil => rfl
  | cons step rest ih => rw [List.foldl_cons, ih, keeps]

theorem size_fill (entries : Array α) (start length : Nat) (value : α) :
    (fill entries start length value).size = entries.size :=
  size_foldl _ _ (fun _ _ => Array.size_setIfInBounds) entries

theorem size_copy (entries origin : Array α) (target source length : Nat) :
    (copy entries origin target source length).size = entries.size :=
  size_foldl _ _ (fun _ _ => by split <;> simp) entries

end EvidenceGrid.Runs

/-!
What is known of one cell in three steps: nothing, that it is free, or that it
is occupied. The order is the order of precedence inside one frame, where an
obstacle is never taken back and nothing seen is ever forgotten.
-/

set_option autoImplicit false

namespace EvidenceGrid

inductive Occupancy
  | unknown
  | free
  | occupied
deriving DecidableEq, Inhabited, Repr

namespace Occupancy

def rank : Occupancy → Nat
  | unknown => 0
  | free => 1
  | occupied => 2

instance : LE Occupancy := ⟨fun left right => left.rank ≤ right.rank⟩
instance : LT Occupancy := ⟨fun left right => left.rank < right.rank⟩
instance (left right : Occupancy) : Decidable (left ≤ right) :=
  inferInstanceAs (Decidable (left.rank ≤ right.rank))
instance (left right : Occupancy) : Decidable (left < right) :=
  inferInstanceAs (Decidable (left.rank < right.rank))

/-- Two observations of one cell: the stronger one stands. -/
def join (left right : Occupancy) : Occupancy := if left ≤ right then right else left

def mark (state seen : Occupancy) : Occupancy × Bool :=
  let joined := state.join seen
  (joined, joined ≠ state)

end Occupancy

end EvidenceGrid

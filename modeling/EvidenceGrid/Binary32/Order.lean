/-!
Smaller and larger of two binary32 values, and two ways of holding a value
between bounds. A NaN operand is passed over by `lesser` and `greater`, so a
NaN that is `confined` lands on the lower bound; `clamp?` keeps a NaN value and
refuses bounds that are not in order.
-/

set_option autoImplicit false

namespace EvidenceGrid.Binary32

/-- The smaller of two values, or the other one when one is NaN. -/
def lesser (left right : Float32) : Float32 :=
  if left.isNaN then right
  else if right.isNaN then left
  else if right < left then right else left

def greater (left right : Float32) : Float32 :=
  if left.isNaN then right
  else if right.isNaN then left
  else if left < right then right else left

def confine (low high value : Float32) : Float32 := lesser (greater value low) high

/-- A value brought between two bounds that are taken to be in order. A NaN
value is below neither bound nor above one, so it stays NaN. -/
def clamp (low high value : Float32) : Float32 :=
  if value < low then low else if high < value then high else value

/-- A value brought between two bounds; there is no answer when the bounds are
not in order, or when one of them is NaN. -/
def clamp? (low high value : Float32) : Option Float32 :=
  if low ≤ high then some (clamp low high value) else none

end EvidenceGrid.Binary32

import EvidenceGrid.Binary32.Whole

/-!
The decimal text of a binary32 value: the fewest digits that read back as the
same value, of those the nearest, and of two equally near the larger. The text
is positional whatever the size and never carries an exponent; a whole number
has no decimal point. The search compares exact natural numbers only.
-/

set_option autoImplicit false

namespace EvidenceGrid.Binary32

def magnitude (value : Float32) : Nat × Int :=
  let bits := value.toBits.toNat
  let power : Nat := bits / 0x800000 % 0x100
  let fraction : Nat := bits % 0x800000
  if power = 0 then (fraction, -149) else (0x800000 + fraction, (power : Int) - 150)

/-- The magnitudes that read back as a given one, in quarters of its last
place. The gap below a power of two is half as wide as the gap above it. -/
structure RoundingInterval where
  low : Nat
  center : Nat
  high : Nat
  power : Int
  closed : Bool

def RoundingInterval.of (value : Float32) : RoundingInterval :=
  let (significand, power) := magnitude value
  let narrow := significand = 0x800000 ∧ -149 < power
  { low := if narrow then 4 * significand - 1 else 4 * significand - 2
    center := 4 * significand
    high := 4 * significand + 2
    power := power - 2
    closed := significand % 2 = 0 }

/-- The multiple of `10 ^ place` to print, as a count of such units, when one
of the two neighbours of the value on that decimal grid lies in the interval. -/
def RoundingInterval.onGrid? (interval : RoundingInterval) (place : Int) : Option Nat :=
  let scale := Nat.pow 10 (-place).toNat <<< interval.power.toNat
  let unit := Nat.pow 10 place.toNat <<< (-interval.power).toNat
  let low := interval.low * scale
  let center := interval.center * scale
  let high := interval.high * scale
  let inside (count : Nat) : Bool :=
    if interval.closed then low ≤ count * unit && count * unit ≤ high
    else low < count * unit && count * unit < high
  let below := center / unit
  let above := below + 1
  match inside below, inside above with
  | true, true => some (if center - below * unit < above * unit - center then below else above)
  | true, false => some below
  | false, true => some above
  | false, false => none

/-- The decimal places to try, coarsest first. At the last one the grid is finer
than the gap between any two values, so one of the places always succeeds. -/
def decimalPlaces : List Int := (List.range 85).map fun (step : Nat) => 39 - (step : Int)

def shortest (value : Float32) : Nat × Int :=
  let interval := RoundingInterval.of value
  (decimalPlaces.findSome? fun place =>
    (interval.onGrid? place).map fun count => (count, place)).getD (0, 0)

def positional (count : Nat) (place : Int) : String :=
  if 0 ≤ place then Nat.repr (count * Nat.pow 10 place.toNat)
  else
    let unit := Nat.pow 10 (-place).toNat
    let digits := Nat.repr (count % unit)
    let padding := (-place).toNat - digits.length
    Nat.repr (count / unit) ++ "." ++ "".pushn '0' padding ++ digits

def text (value : Float32) : String :=
  if value.isNaN then "NaN"
  else
    let size :=
      if value.isInf then "inf"
      else if value == 0 then "0"
      else
        let (count, place) := shortest value
        positional count place
    if isNegative value then "-" ++ size else size

end EvidenceGrid.Binary32

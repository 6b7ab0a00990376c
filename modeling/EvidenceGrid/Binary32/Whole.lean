/-!
Whole numbers among the binary32 values: rounding down, rounding to the nearest
with halves away from zero, and conversion to a signed 32-bit number that
saturates. All of it is built from comparison, addition and the conversions of
magnitudes below `2 ^ 23`, so each step has a model that proofs can open.
Nothing is said about the error of the arithmetic that leads to such a value.
-/

set_option autoImplicit false

namespace EvidenceGrid.Binary32

/-- The sign bit, which also tells the two zeros apart. -/
def isNegative (value : Float32) : Bool := value.toBits >>> 31 == 1

def wholeFrom : Float32 := 8388608

/-- A magnitude with the sign of another value, so that a negative value whose
rounding is zero keeps its sign bit. -/
def withSignOf (value magnitude : Float32) : Float32 :=
  if isNegative value then -magnitude else magnitude

def wholePart (magnitude : Float32) : Float32 := magnitude.toUInt32.toFloat32

/-- The greatest whole number that is not above the value. Infinities and NaN
stay as they are. -/
def floor (value : Float32) : Float32 :=
  if value.abs < wholeFrom then
    let whole := withSignOf value (wholePart value.abs)
    if value < whole then whole - 1 else whole
  else value

/-- The whole number nearest to the value; a half goes away from zero. The
difference from the whole part is exact, so the comparison with one half is. -/
def nearest (value : Float32) : Float32 :=
  if value.abs < wholeFrom then
    let whole := wholePart value.abs
    withSignOf value (if 0.5 ≤ value.abs - whole then whole + 1 else whole)
  else value

/-- The whole part as a signed 32-bit number. Values beyond the range go to its
ends and NaN goes to zero. -/
def toSigned (value : Float32) : Int :=
  if value < 0 then -(min (-value).toUInt32.toNat 0x80000000 : Nat)
  else (min value.toUInt32.toNat 0x7fffffff : Nat)

end EvidenceGrid.Binary32

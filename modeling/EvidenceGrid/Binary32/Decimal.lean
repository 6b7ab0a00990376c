/-!
From decimals to binary32. A decimal is first rounded to binary64 and the
result to binary32, both to the nearest with ties to even, because that is what
a reader of double precision followed by a narrowing gives; rounding once would
differ on decimals near a half-way point.
-/

set_option autoImplicit false

namespace EvidenceGrid.Binary32

structure Decimal where
  negative : Bool
  digits : Nat
  exponent : Int
deriving Repr, DecidableEq

def floorLog2 (numerator denominator : Nat) : Int :=
  let guess : Int := (numerator.log2 : Int) - denominator.log2
  if denominator <<< guess.toNat ≤ numerator <<< (-guess).toNat then guess else guess - 1

/-- The multiple of a power of two nearest to a positive fraction, with at most
`precision` significant bits and no power below `least`; ties go to even. -/
def roundToBinary (precision : Nat) (least : Int) (numerator denominator : Nat) : Nat × Int :=
  let power := max least (floorLog2 numerator denominator - precision + 1)
  let scaled := numerator <<< (-power).toNat
  let unit := denominator <<< power.toNat
  let below := scaled / unit
  let rest := scaled % unit
  let up := unit < 2 * rest ∨ (unit = 2 * rest ∧ below % 2 = 1)
  (if up then below + 1 else below, power)

def nearestDouble? (digits : Nat) (exponent : Int) : Option (Nat × Int) :=
  let places : Int := (Nat.repr digits).length + exponent
  if digits = 0 ∨ places < -400 then some (0, 0)
  else if 400 < places then none
  else
    let (significand, power) :=
      roundToBinary 53 (-1074) (digits * Nat.pow 10 exponent.toNat) (Nat.pow 10 (-exponent).toNat)
    if 1 <<< 1024 ≤ significand <<< power.toNat then none else some (significand, power)

def narrowBits (significand : Nat) (power : Int) : UInt32 :=
  if significand = 0 then 0
  else
    let (rounded, exponent) :=
      roundToBinary 24 (-149) (significand <<< power.toNat) (1 <<< (-power).toNat)
    let bits := ((exponent + 149) * 0x800000 + rounded).toNat
    UInt32.ofNat (min bits 0x7f800000)

/-- The value of a decimal, or nothing when it does not fit in binary64. -/
def Decimal.toBinary32? (decimal : Decimal) : Option Float32 :=
  (nearestDouble? decimal.digits decimal.exponent).map fun (significand, power) =>
    let size := Float32.ofBits (narrowBits significand power)
    if decimal.negative then -size else size

end EvidenceGrid.Binary32

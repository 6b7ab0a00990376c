import EvidenceGrid.Occupancy

/-!
The published alphabet: `-1` where nothing is known, and occupancy in percent
from `0` to `100` elsewhere. A state is first put on a scale of bytes, where `0`
is kept for the unknown and `1` to `255` run from free to occupied; the bytes
then stand for percentages, rounded to the nearest.
-/

set_option autoImplicit false

namespace EvidenceGrid

namespace Confidence

def unknown : UInt8 := 0

def free : UInt8 := 1

def occupied : UInt8 := 255

end Confidence

namespace Cost

def unknown : Int8 := -1

def ofConfidence (byte : UInt8) : Int8 :=
  if byte = Confidence.unknown then unknown
  else Int8.ofNat (((byte.toNat - 1) * 100 + 127) / 254)

end Cost

namespace Occupancy

def confidence : Occupancy → UInt8
  | unknown => Confidence.unknown
  | free => Confidence.free
  | occupied => Confidence.occupied

def cost (state : Occupancy) : Int8 := Cost.ofConfidence state.confidence

end Occupancy

end EvidenceGrid

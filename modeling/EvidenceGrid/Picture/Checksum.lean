/-!
The two checksums of a picture file: the cyclic redundancy check of its chunks,
by the reflected polynomial `0xEDB88320`, and the pair of sums at the end of its
pixel stream.
-/

set_option autoImplicit false

namespace EvidenceGrid.Checksum

def shiftBit (remainder : UInt32) : UInt32 :=
  if remainder &&& 1 = 1 then (remainder >>> 1) ^^^ 0xEDB88320 else remainder >>> 1

def cycleByte (remainder : UInt32) (byte : UInt8) : UInt32 :=
  (List.range 8).foldl (fun rest _ => shiftBit rest) (remainder ^^^ byte.toUInt32)

def cyclic (bytes : ByteArray) : UInt32 := bytes.foldl cycleByte 0xFFFFFFFF ^^^ 0xFFFFFFFF

/-- The pair of sums of some bytes, the running sum in the high half. -/
def sums (bytes : ByteArray) : UInt32 :=
  let (low, high) := bytes.foldl
    (fun (low, high) byte =>
      let low := (low + byte.toUInt32) % 65521
      (low, (high + low) % 65521))
    ((1 : UInt32), (0 : UInt32))
  high <<< 16 ||| low

end EvidenceGrid.Checksum

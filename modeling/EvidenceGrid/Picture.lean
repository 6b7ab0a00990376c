import EvidenceGrid.Mapper

/-!
A published map as a gray picture: free cells near white, occupied cells black,
unknown cells in a gray of their own, and the lowest row of the map at the
bottom. Values that are missing count as unknown and values beyond the map are
left out.
-/

set_option autoImplicit false

namespace EvidenceGrid

/-- A gray picture, its pixels row by row from the top. -/
structure Picture where
  width : UInt32
  height : UInt32
  pixels : Array UInt8
deriving DecidableEq

namespace Cost

def unknownGray : UInt8 := 205

/-- The gray of a published value. Values outside the alphabet take the gray of
its nearest end, except the one that stands for the unknown. -/
def gray (value : Int8) : UInt8 :=
  if value = unknown then unknownGray
  else
    let percent := (max 0 (min value.toInt 100)).toNat
    UInt8.ofNat (254 - percent * 254 / 100)

end Cost

namespace Snapshot

def valueIndex (lattice : Lattice) (pixel : Nat) : Nat :=
  let width := lattice.width.toNat
  (lattice.height.toNat - 1 - pixel / width) * width + pixel % width

def picture (snapshot : Snapshot) : Picture :=
  { width := snapshot.lattice.width
    height := snapshot.lattice.height
    pixels := Array.ofFn fun (pixel : Fin snapshot.lattice.area) =>
      Cost.gray (snapshot.values.getD (valueIndex snapshot.lattice pixel) Cost.unknown) }

def occupiedCount (snapshot : Snapshot) : Nat := snapshot.values.countP fun value => 50 < value

def freeCount (snapshot : Snapshot) : Nat :=
  snapshot.values.countP fun value => 0 ≤ value && value < 50

end Snapshot

end EvidenceGrid

import EvidenceGrid.Plane
import Std.Data.HashSet

/-!
Point clouds before their rays are cast: cropping to a band of heights, and
keeping the obstacle points that the cloud of all returns contains as well. Both
keep the order and the multiplicity of the points they keep.
-/

set_option autoImplicit false

namespace EvidenceGrid

abbrev Cloud := List Point3

namespace Cloud

/-- The points whose height over a reference lies in a band, ends included. -/
def crop (cloud : Cloud) (reference low high : Float32) : Cloud :=
  cloud.filter fun point =>
    let height := point.z - reference
    low ≤ height && height ≤ high

end Cloud

/-- A cube of space, by whole numbers of its side as signed words. -/
structure Voxel where
  x : Int32
  y : Int32
  z : Int32
deriving DecidableEq, Hashable, Repr

namespace Voxel

def place (side coordinate : Float32) : Int32 :=
  Int32.ofInt (Binary32.toSigned (Binary32.floor (coordinate / side)))

def of (side : Float32) (point : Point3) : Voxel :=
  ⟨place side point.x, place side point.y, place side point.z⟩

def steps : List Int32 := [-1, 0, 1]

/-- A cube and all that touch it. Beyond an end of the words the count goes on at the
other end. -/
def neighborhood (voxel : Voxel) : List Voxel :=
  steps.flatMap fun dx => steps.flatMap fun dy => steps.map fun dz =>
    ⟨voxel.x + dx, voxel.y + dy, voxel.z + dz⟩

end Voxel

/-- The points of one cloud that another has in the same cube or in one that
touches it, so that a return on the far side of a cube's face still counts. -/
def Cloud.matching (cloud others : Cloud) (tolerance : Float32) : Cloud :=
  let taken := Std.HashSet.ofList (others.map (Voxel.of tolerance))
  cloud.filter fun point => (Voxel.of tolerance point).neighborhood.any taken.contains

end EvidenceGrid

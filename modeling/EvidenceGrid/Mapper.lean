import EvidenceGrid.BeliefMap
import EvidenceGrid.Frame

/-!
The mapper runs whole cycles: it frames a sweep, takes the frame in, and gives
out the published map. Every function that may change the mapper answers with
the mapper after the call beside its result, also when the result is a fault.
The height that is published with the persistent map is that of the last frame
that was offered, taken in or not.
-/

set_option autoImplicit false

namespace EvidenceGrid

structure Snapshot where
  lattice : Lattice
  platformHeight : Float32
  /-- Published values, row by row from the lower left corner. -/
  values : Array Int8
deriving DecidableEq

def Frame.snapshot (frame : Frame) : Snapshot :=
  { lattice := frame.grid.lattice
    platformHeight := frame.platform.position.z
    values := frame.grid.cells.map Occupancy.cost }

/-- The counts of one cycle. There is no fusion tally where frames stand alone. -/
structure CycleTally where
  obstaclePoints : Nat
  rawPoints : Nat
  rays : RayTally
  fusion : Option FusionTally
deriving DecidableEq

structure Publication where
  snapshot : Snapshot
  tally : CycleTally
deriving DecidableEq

structure Mapper where
  settings : Settings
  beliefs : BeliefMap
  platformHeight : Float32
deriving DecidableEq

namespace Mapper

def ofSettings (settings : Settings) : Except Fault Mapper := do
  settings.validate
  let beliefs ← BeliefMap.empty (← settings.lattice) settings.model
  return { settings, beliefs, platformHeight := 0 }

def snapshot (mapper : Mapper) : Snapshot :=
  { lattice := mapper.beliefs.grid.lattice
    platformHeight := mapper.platformHeight
    values := mapper.beliefs.grid.cells.map Belief.cost }

def framing (mapper : Mapper) : Framing := ⟨mapper.settings, mapper.beliefs.grid.lattice⟩

def frame (mapper : Mapper) (sweep : Sweep) : Except Fault Frame := mapper.framing.frame sweep

/-- The mapper after a frame, and what is published. Where frames stand alone
the persistent map has no part in it. -/
def integrate (mapper : Mapper) (frame : Frame) : Mapper × Except Fault Publication :=
  let mapper := { mapper with platformHeight := frame.platform.position.z }
  let publish (snapshot : Snapshot) (fusion : Option FusionTally) : Publication :=
    { snapshot
      tally := ⟨frame.obstaclePoints, frame.rawPoints, frame.rays, fusion⟩ }
  if mapper.settings.singleFrame then (mapper, .ok (publish frame.snapshot none))
  else
    match mapper.beliefs.update frame.grid with
    | .error fault => (mapper, .error fault)
    | .ok (beliefs, fusion) =>
      let mapper := { mapper with beliefs }
      (mapper, .ok (publish mapper.snapshot (some fusion)))

/-- One whole cycle. A sweep that gives no frame leaves the mapper as it is. -/
def process (mapper : Mapper) (sweep : Sweep) : Mapper × Except Fault Publication :=
  match mapper.frame sweep with
  | .error fault => (mapper, .error fault)
  | .ok frame => mapper.integrate frame

def reset (mapper : Mapper) : Mapper := { mapper with beliefs := mapper.beliefs.reset }

end Mapper

end EvidenceGrid

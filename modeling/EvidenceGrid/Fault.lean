import EvidenceGrid.Plane
import EvidenceGrid.Binary32.Shortest

/-!
Everything that can go wrong, as causes, and one wording for each. A cause
carries what its wording shows. Failures of the storage, of the notation of a
settings document and of a picture file carry nothing: their details belong to
whoever reads or writes there.
-/

set_option autoImplicit false

namespace EvidenceGrid

inductive DimensionFault
  | noCells (width height : UInt32)
  | tooManyCells (width height : UInt32) (limit : Nat)
  | cellCount (given expected : Nat)
  | sideLength (length : Float32)
deriving DecidableEq

inductive ShapeFault
  | frame (width height : UInt32) (resolution : Float32)
      (mapWidth mapHeight : UInt32) (mapResolution : Float32)
  | snapshot (values : Nat) (width height : UInt32)
deriving DecidableEq

inductive GeometryFault
  | noPoses
  | posesNotFinite
  | originNotFinite (origin : Point)
deriving DecidableEq

inductive SettingsFault
  | notFinite
  | hit (value : Float32)
  | miss (value : Float32)
  | bounds (low high : Float32)
  | decay (value : Float32)
  | thresholds (free occupied : Float32)
  | heightBand (low high : Float32)
  | tolerance (value : Float32)
deriving DecidableEq

inductive Fault
  | storage
  | document
  | picture
  | dimension (cause : DimensionFault)
  | resolution (value : Float32)
  | cellOutside (cell : Cell) (width height : UInt32)
  | pointOutside (point : Point)
  | shape (cause : ShapeFault)
  | geometry (cause : GeometryFault)
  | settings (cause : SettingsFault)
  /-- A value was to be held between bounds that are not in order. -/
  | clampBounds (low high : Float32)
deriving DecidableEq

open Binary32 (text)

def DimensionFault.message : DimensionFault → String
  | noCells width height => s!"map size {width}x{height} must be non-zero"
  | tooManyCells width height limit => s!"map size {width}x{height} exceeds {limit} cells"
  | cellCount given expected => s!"data length {given} does not match map size {expected}"
  | sideLength length => s!"map_length must be positive, got {text length}"

def ShapeFault.message : ShapeFault → String
  | frame width height resolution mapWidth mapHeight mapResolution =>
      s!"frame {width}x{height}@{text resolution} does not match map " ++
        s!"{mapWidth}x{mapHeight}@{text mapResolution}"
  | snapshot values width height => s!"snapshot has {values} values for a {width}x{height} map"

def GeometryFault.message : GeometryFault → String
  | noPoses => "no poses for frame"
  | posesNotFinite => "frame poses are not finite"
  | originNotFinite origin =>
      s!"grid origin ({text origin.x}, {text origin.y}) has no finite cell lattice position"

def SettingsFault.message : SettingsFault → String
  | notFinite => "fusion parameters must be finite"
  | hit value => s!"l_occupied must be > 0, got {text value}"
  | miss value => s!"l_free must be < 0, got {text value}"
  | bounds low high => s!"clamp bounds [{text low}, {text high}] must contain 0"
  | decay value => s!"decay_rate must be >= 0, got {text value}"
  | thresholds free occupied =>
      s!"thresholds must satisfy l_min <= free ({text free}) < 0 < " ++
        s!"occupied ({text occupied}) <= l_max"
  | heightBand low high => s!"height band [{text low}, {text high}] is empty"
  | tolerance value => s!"common_point_tolerance must be positive, got {text value}"

def Fault.message : Fault → String
  | storage => "io error: the file cannot be read"
  | document => "yaml error: the document cannot be read"
  | picture => "image error: the picture cannot be written"
  | dimension cause => "invalid dimension: " ++ cause.message
  | resolution value => s!"invalid resolution: {text value}"
  | cellOutside cell width height =>
      s!"cell ({cell.x}, {cell.y}) out of bounds for map {width}x{height}"
  | pointOutside point => s!"world point ({text point.x}, {text point.y}) is outside the map"
  | shape cause => "dimension mismatch: " ++ cause.message
  | geometry cause => "geometry unavailable: " ++ cause.message
  | settings cause => "invalid config: " ++ cause.message
  | clampBounds low high => s!"bounds {text low} and {text high} are not in order"

end EvidenceGrid

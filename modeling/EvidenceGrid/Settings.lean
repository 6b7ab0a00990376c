import EvidenceGrid.Lattice
import EvidenceGrid.SensorModel

/-!
The settings of a mapper, their standard values and the checks they must pass.
Settings that no enabled feature uses are not checked.
-/

set_option autoImplicit false

namespace EvidenceGrid

structure Settings where
  mapLength : Float32
  mapResolution : Float32
  /-- Cells in a row, in place of what the length gives. -/
  mapWidth : Option UInt32
  mapHeight : Option UInt32
  cropHeights : Bool
  minHeight : Float32
  maxHeight : Float32
  matchObstacles : Bool
  /-- Distance under which two points count as one return. -/
  matchTolerance : Float32
  /-- Whether each frame is published on its own and nothing persists. -/
  singleFrame : Bool
  model : SensorModel
deriving DecidableEq

namespace Settings

def standard : Settings :=
  { mapLength := 100, mapResolution := 0.5, mapWidth := none, mapHeight := none
    cropHeights := true, minHeight := -1, maxHeight := 2
    matchObstacles := false, matchTolerance := 0.01
    singleFrame := false, model := .standard }

def cellsPerSide (settings : Settings) : UInt32 :=
  (Binary32.nearest (settings.mapLength / settings.mapResolution)).toUInt32

def lattice (settings : Settings) : Except Fault Lattice :=
  if !settings.mapResolution.isFinite || settings.mapResolution ≤ 0 then
    .error (.resolution settings.mapResolution)
  else if !settings.mapLength.isFinite || settings.mapLength ≤ 0 then
    .error (.dimension (.sideLength settings.mapLength))
  else do
    let side := settings.cellsPerSide
    let lattice : Lattice :=
      ⟨settings.mapWidth.getD side, settings.mapHeight.getD side, settings.mapResolution, .zero⟩
    lattice.validate
    return lattice

def hasHeightBand (settings : Settings) : Bool :=
  settings.minHeight.isFinite && settings.maxHeight.isFinite
    && settings.minHeight < settings.maxHeight

def hasTolerance (settings : Settings) : Bool :=
  settings.matchTolerance.isFinite && 0 < settings.matchTolerance

/-- The checks on settings: the window, the model, and then what the enabled
filters need. -/
def validate (settings : Settings) : Except Fault Unit := do
  discard settings.lattice
  settings.model.validate
  if settings.cropHeights && !settings.hasHeightBand then
    throw (.settings (.heightBand settings.minHeight settings.maxHeight))
  if settings.matchObstacles && !settings.hasTolerance then
    throw (.settings (.tolerance settings.matchTolerance))

/-- What a reader of documents finds in a text, when it passes the checks. -/
def ofTextBy (read : String → Option Settings) (text : String) : Except Fault Settings :=
  match read text with
  | none => .error .document
  | some settings => do
    settings.validate
    return settings

end Settings

end EvidenceGrid

import EvidenceGrid.Cloud
import EvidenceGrid.Pose
import EvidenceGrid.Ray
import EvidenceGrid.Settings

/-!
From one sweep of the sensor to the grid of a single frame: the clouds are
filtered, the window is placed around the platform, and rays are cast. Framing
needs the settings and the lattice of the persistent map and changes neither, so
it can go on while other frames are taken in.
-/

set_option autoImplicit false

namespace EvidenceGrid

structure Sweep where
  obstacle : Cloud
  raw : Cloud
  /-- The poses, unless they could not be resolved. -/
  placement : Option Placement
deriving DecidableEq

structure Frame where
  grid : Grid Occupancy
  platform : Pose
  obstaclePoints : Nat
  rawPoints : Nat
  rays : RayTally
deriving DecidableEq

/-- What is needed to make frames: the settings, and the lattice to align to. -/
structure Framing where
  settings : Settings
  anchor : Lattice
deriving DecidableEq

namespace Framing

/-- The corner of the window around a place. It lies on the anchor's lattice, so
that a frame is taken in cell for cell, except where every frame stands alone. -/
def corner (framing : Framing) (place : Point) : Point :=
  let corner := place - framing.anchor.extent * (0.5 : Float32)
  if framing.settings.singleFrame then corner else framing.anchor.snap corner

def cropped (framing : Framing) (height : Float32) (cloud : Cloud) : Cloud :=
  if framing.settings.cropHeights then
    cloud.crop height framing.settings.minHeight framing.settings.maxHeight
  else cloud

/-- The obstacle points that are used, out of the cropped clouds. When matching
leaves none, all are used. -/
def matched (framing : Framing) (obstacle raw : Cloud) : Cloud :=
  if framing.settings.matchObstacles then
    let common := obstacle.matching raw framing.settings.matchTolerance
    if common.isEmpty then obstacle else common
  else obstacle

/-- The frame of a sweep. Without finite poses there is none. -/
def frame (framing : Framing) (sweep : Sweep) : Except Fault Frame :=
  match sweep.placement with
  | none => .error (.geometry .noPoses)
  | some placement =>
    if !placement.isFinite then .error (.geometry .posesNotFinite)
    else do
      let height := placement.platform.position.z
      let raw := framing.cropped height sweep.raw
      let obstacle := framing.matched (framing.cropped height sweep.obstacle) raw
      let lattice := { framing.anchor with origin := framing.corner placement.center.ground }
      let (grid, rays) ←
        Grid.ofEchoes lattice placement.sensor.ground (Echo.ofClouds raw obstacle)
      return { grid, platform := placement.platform
               obstaclePoints := obstacle.length, rawPoints := raw.length, rays }

end Framing

end EvidenceGrid

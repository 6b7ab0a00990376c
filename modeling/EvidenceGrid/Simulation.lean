import EvidenceGrid.Mapper

/-!
A simulated platform with a flat range sensor that drives around a walled room
with a few blocks in it. The sensor turns once at every stop of the route and
returns the first surface on each beam, or a point at its longest range where it
meets none. The sweeps feed a mapper; the last published map is the result.
-/

set_option autoImplicit false

namespace EvidenceGrid.Simulation

structure Box where
  min : Point
  max : Point

def beams : Nat := 360

def maxRange : Float32 := 12

def sensorHeight : Float32 := 0.4

def fullTurn : Float32 := 6.2831855

def halfTurn : Float32 := 3.1415927

def quarterTurn : Float32 := 1.5707964

def Box.crossings (box : Box) (start direction : Point) : Point × Point :=
  let inverse : Point := ⟨1 / direction.x, 1 / direction.y⟩
  let toMin := box.min - start
  let toMax := box.max - start
  let first : Point := ⟨toMin.x * inverse.x, toMin.y * inverse.y⟩
  let second : Point := ⟨toMax.x * inverse.x, toMax.y * inverse.y⟩
  (⟨Binary32.lesser first.x second.x, Binary32.lesser first.y second.y⟩,
    ⟨Binary32.greater first.x second.x, Binary32.greater first.y second.y⟩)

def Box.entry? (box : Box) (start direction : Point) : Option Float32 :=
  let (near, far) := box.crossings start direction
  let enters := Binary32.greater near.x near.y
  let leaves := Binary32.lesser far.x far.y
  if enters ≤ leaves && 0 < enters then some enters else none

def Box.exit (box : Box) (start direction : Point) : Float32 :=
  let far := (box.crossings start direction).2
  Binary32.lesser far.x far.y

def room : Box := ⟨⟨-8, -8⟩, ⟨8, 8⟩⟩

def blocks : List Box :=
  [⟨⟨2, 1⟩, ⟨3, 2⟩⟩, ⟨⟨-5, -4⟩, ⟨-2, -3.5⟩⟩, ⟨⟨-1, 4⟩, ⟨0, 6⟩⟩]

def range? (start direction : Point) : Option Float32 :=
  let hit := (blocks.filterMap (Box.entry? · start direction)).foldl Binary32.lesser
    (room.exit start direction)
  if hit ≤ maxRange then some hit else none

def direction (angle : Float32) : Point := ⟨angle.cos, angle.sin⟩

/-- One turn of the sensor. Beams that meet a surface give an obstacle point and
a return; the others give a return at the longest range. -/
def turn (pose : Pose) : Sweep :=
  let start := pose.ground
  let returns := (List.range beams).map fun beam =>
    let angle := pose.yaw + fullTurn * beam.toUInt32.toFloat32 / beams.toUInt32.toFloat32
    let along := direction angle
    match range? start along with
    | some range => ((start + along * range).atHeight sensorHeight, true)
    | none => ((start + along * maxRange).atHeight sensorHeight, false)
  { obstacle := (returns.filter Prod.snd).map Prod.fst
    raw := returns.map Prod.fst
    placement := some (.together pose) }

def corners : List Point := [⟨-6, -6⟩, ⟨6, -6⟩, ⟨6, 6⟩, ⟨-6, 6⟩]

def stopsPerLeg : Nat := 20

def heading (move : Point) : Float32 :=
  if move.y == 0 then if move.x < 0 then halfTurn else 0
  else if move.y < 0 then -quarterTurn else quarterTurn

def leg (start goal : Point) : List Pose :=
  (List.range stopsPerLeg).map fun stop =>
    let part := stop.toUInt32.toFloat32 / stopsPerLeg.toUInt32.toFloat32
    ⟨(start * (1 - part) + goal * part).atHeight 0, heading (goal - start)⟩

def route : List Pose :=
  (corners.zip (corners.drop 1 ++ corners.take 1)).flatMap fun (start, goal) => leg start goal

def settings : Settings := { Settings.standard with mapLength := 20, mapResolution := 0.1 }

/-- The whole route on a new mapper, and the last published map. The first fault
ends the run. -/
def run (settings : Settings) : Except Fault Snapshot := do
  let mapper ← Mapper.ofSettings settings
  let (_, snapshot) ← route.foldlM
    (fun (mapper, _) pose => do
      let (mapper, result) := mapper.process (turn pose)
      return (mapper, (← result).snapshot))
    (mapper, mapper.snapshot)
  return snapshot

end EvidenceGrid.Simulation

import EvidenceGrid.Belief

/-!
What a frame's observation of a cell is worth: the evidence of a hit and of a
miss, the bounds that belief saturates at, how fast unobserved cells fade, and
from where a belief counts as occupied or as free. The standard numbers are
starting points for calibration, with hits weighing more than misses so that
obstacles outlast free space.
-/

set_option autoImplicit false

namespace EvidenceGrid

structure SensorModel where
  hit : Float32
  miss : Float32
  low : Float32
  high : Float32
  /-- How far a cell that a frame did not observe moves toward unknown. -/
  decay : Float32
  occupiedFrom : Float32
  freeUpTo : Float32
deriving DecidableEq

namespace SensorModel

def standard : SensorModel :=
  { hit := 0.85, miss := -0.4, low := -3.5, high := 3.5, decay := 0
    occupiedFrom := 0.85, freeUpTo := -0.85 }

def ofProbabilities (hit miss : Float32) : SensorModel :=
  { standard with
    hit := (Belief.ofProbability hit).logOdds, miss := (Belief.ofProbability miss).logOdds }

def values (model : SensorModel) : List Float32 :=
  [model.hit, model.miss, model.low, model.high, model.decay, model.occupiedFrom, model.freeUpTo]

/-- A usable model has finite numbers, evidence of the right sign, bounds around
zero, no negative fading, and thresholds of the right sign within the bounds.
The checks come in this order. -/
def validate (model : SensorModel) : Except Fault Unit :=
  if model.values.any (fun value => !value.isFinite) then .error (.settings .notFinite)
  else if model.hit ≤ 0 then .error (.settings (.hit model.hit))
  else if 0 ≤ model.miss then .error (.settings (.miss model.miss))
  else if !(model.low < 0 && 0 < model.high) then
    .error (.settings (.bounds model.low model.high))
  else if model.decay < 0 then .error (.settings (.decay model.decay))
  else if !(model.low ≤ model.freeUpTo && model.freeUpTo < 0
      && 0 < model.occupiedFrom && model.occupiedFrom ≤ model.high) then
    .error (.settings (.thresholds model.freeUpTo model.occupiedFrom))
  else .ok ()

def revise (model : SensorModel) (prior : Belief) : Occupancy → Except Fault Belief
  | .occupied => prior.observe model.hit model.low model.high
  | .free => prior.observe model.miss model.low model.high
  | .unknown => .ok (if 0 < model.decay then prior.fade model.decay else prior)

def classify (model : SensorModel) (belief : Belief) : Occupancy :=
  if model.occupiedFrom ≤ belief.logOdds then .occupied
  else if belief.logOdds ≤ model.freeUpTo then .free
  else .unknown

end SensorModel

end EvidenceGrid

import EvidenceGrid.Binary32.Order
import EvidenceGrid.Binary32.Whole
import EvidenceGrid.Cost
import EvidenceGrid.Fault

/-!
Belief in the occupancy of one cell, kept as log-odds `ln (p / (1 - p))`.
Independent evidence adds in this form, so observing is a sum held between two
bounds. Zero of either sign stands for knowing nothing: fresh cells start there
and fading returns there. Probability needs the exponential function, of which
only its order matters here; the definitions that use it take it as a parameter
and are then fixed to the platform's own.
-/

set_option autoImplicit false

namespace EvidenceGrid

structure Belief where
  logOdds : Float32
deriving DecidableEq, Inhabited

namespace Belief

def unknown : Belief := ⟨0⟩

def ofProbability (probability : Float32) : Belief :=
  ⟨(probability / (1 - probability)).log⟩

def isUnknown (belief : Belief) : Bool := belief.logOdds == 0

/-- Evidence added, and the sum held between two bounds. Bounds that are not in
order are a fault. -/
def observe (belief : Belief) (evidence low high : Float32) : Except Fault Belief :=
  match Binary32.clamp? low high (belief.logOdds + evidence) with
  | some value => .ok ⟨value⟩
  | none => .error (.clampBounds low high)

def fade (belief : Belief) (rate : Float32) : Belief :=
  if 0 < belief.logOdds then ⟨Binary32.greater (belief.logOdds - rate) 0⟩
  else if belief.logOdds < 0 then ⟨Binary32.lesser (belief.logOdds + rate) 0⟩
  else belief

def probabilityBy (exp : Float32 → Float32) (belief : Belief) : Float32 :=
  1 / (1 + exp (-belief.logOdds))

/-- The byte of a belief: its probability on a scale from free to occupied. The
scale is held to its ends before it becomes a byte, and a byte above the free
one has room for it. -/
def confidenceBy (exp : Float32 → Float32) (belief : Belief) : UInt8 :=
  if belief.isUnknown then Confidence.unknown
  else
    let scaled := Binary32.nearest (belief.probabilityBy exp * 254)
    Confidence.free + (Binary32.clamp 0 254 scaled).toUInt8

def costBy (exp : Float32 → Float32) (belief : Belief) : Int8 :=
  Cost.ofConfidence (belief.confidenceBy exp)

def probability (belief : Belief) : Float32 := belief.probabilityBy Float32.exp

def confidence (belief : Belief) : UInt8 := belief.confidenceBy Float32.exp

def cost (belief : Belief) : Int8 := belief.costBy Float32.exp

end Belief

end EvidenceGrid

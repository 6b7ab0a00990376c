import EvidenceGrid.Mapper

/-!
Cycles that overlap on one mapper. Each cycle takes three steps: it notes what
framing needs, makes its frame from that, and has the frame taken in. Other
cycles may step in between, so a frame can be made for a window that has moved
since. A schedule names the cycle that steps next. Steps themselves are never
interrupted, which is what a lock around the first and the last one gives.
-/

set_option autoImplicit false

namespace EvidenceGrid

inductive Cycle
  | waiting (sweep : Sweep)
  | prepared (sweep : Sweep) (framing : Framing)
  | framed (frame : Frame)
  | finished (result : Except Fault Publication)

/-- The next step of a cycle on a mapper. Only taking in a frame changes the
mapper, and a finished cycle takes no step. -/
def Cycle.step (mapper : Mapper) : Cycle → Mapper × Cycle
  | waiting sweep => (mapper, prepared sweep mapper.framing)
  | prepared sweep framing =>
    match framing.frame sweep with
    | .error fault => (mapper, finished (.error fault))
    | .ok frame => (mapper, framed frame)
  | framed frame =>
    let (mapper, result) := mapper.integrate frame
    (mapper, finished result)
  | finished result => (mapper, finished result)

structure Shared where
  mapper : Mapper
  cycles : Array Cycle

namespace Shared

def start (mapper : Mapper) (sweeps : List Sweep) : Shared :=
  ⟨mapper, (sweeps.map Cycle.waiting).toArray⟩

def step (shared : Shared) (turn : Nat) : Shared :=
  if bound : turn < shared.cycles.size then
    let (mapper, cycle) := shared.cycles[turn].step shared.mapper
    ⟨mapper, shared.cycles.set turn cycle⟩
  else shared

def run (shared : Shared) (schedule : List Nat) : Shared := schedule.foldl step shared

def result? (shared : Shared) (turn : Nat) : Option (Except Fault Publication) :=
  match shared.cycles[turn]? with
  | some (.finished result) => some result
  | _ => none

end Shared

end EvidenceGrid

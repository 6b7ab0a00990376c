import EvidenceGrid.Picture.Png
import EvidenceGrid.Settings.Document
import EvidenceGrid.Simulation

/-!
The command line: a settings document and the name of a picture file, both
optional. The simulated platform drives its route and the map it ends with is
saved as a picture.
-/

set_option autoImplicit false

namespace EvidenceGrid.CommandLine

def contents? (path : String) : IO (Option ByteArray) := do
  try
    return some (← IO.FS.readBinFile path)
  catch _ => return none

def settings : Option String → IO (Except Fault Settings)
  | none => return .ok Simulation.settings
  | some path => return Settings.ofFile (← contents? path)

def save (snapshot : Snapshot) (path : String) : IO (Except Fault Unit) := do
  IO.println <|
    s!"writing map occupied={snapshot.occupiedCount} free={snapshot.freeCount} path={path}"
  match snapshot.file path with
  | .error fault => return .error fault
  | .ok bytes =>
    try
      IO.FS.writeBinFile path bytes
      return .ok ()
    catch _ => return .error .picture

def run (words : List String) : IO (Except Fault Unit) := do
  match ← settings words.head? with
  | .error fault => return .error fault
  | .ok settings =>
    match Simulation.run settings with
    | .error fault => return .error fault
    | .ok snapshot => save snapshot ((words.drop 1).headD "survey.png")

end EvidenceGrid.CommandLine

def main (words : List String) : IO UInt32 := do
  match ← EvidenceGrid.CommandLine.run words with
  | .ok () => return 0
  | .error fault =>
    IO.eprintln s!"Error: {fault.message}"
    return 1

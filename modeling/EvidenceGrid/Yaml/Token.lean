/-!
The tokens of YAML text. Indentation shows as tokens that open and close blocks,
so that everything after this works on tokens alone.
-/

set_option autoImplicit false

namespace EvidenceGrid.Yaml

inductive Style
  | plain
  | singleQuoted
  | doubleQuoted
  | literal
  | folded
deriving DecidableEq, Repr

abbrev TagName := List UInt8

def TagName.ofText (text : String) : TagName := text.toUTF8.data.toList

inductive Token
  | version (major minor : Nat)
  | handle (name : String) (stem : TagName)
  | documentStart
  | documentEnd
  | blockSequence
  | blockMapping
  | blockEnd
  | flowSequence
  | flowSequenceEnd
  | flowMapping
  | flowMappingEnd
  | blockEntry
  | flowEntry
  | key
  | value
  | alias (name : String)
  | anchor (name : String)
  | tag (handle : String) (suffix : TagName)
  | scalar (text : String) (style : Style)
deriving DecidableEq, Repr

end EvidenceGrid.Yaml

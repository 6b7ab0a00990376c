import EvidenceGrid.Yaml.Token

/-!
The values of a YAML document: scalars, sequences and mappings, with aliases
for values that are written elsewhere in it. Nothing is decided here about what
a scalar means.
-/

set_option autoImplicit false

namespace EvidenceGrid.Yaml

inductive Node
  | scalar (text : String) (style : Style) (tag : Option TagName)
  | sequence (items : List Node)
  | mapping (entries : List (Node × Node))
  | alias (anchor : Nat)
deriving Inhabited

/-- The scalar that stands where a value is left out. -/
def Node.empty : Node := .scalar "" .plain none

structure Document where
  root : Node
  /-- The anchored values, by the number of their anchor. Where a number stands
  twice the first one counts. -/
  anchored : List (Nat × Node)

/-- A value with an alias followed. An anchor stands for no other alias. -/
def Document.resolve (document : Document) (node : Node) : Node :=
  match node with
  | .alias anchor => (document.anchored.lookup anchor).getD .empty
  | node => node

end EvidenceGrid.Yaml

/-!
The characters of YAML text: which may stand in it at all, which separate words,
which end lines, and how a gap between two words of one scalar folds. A line
ends with a carriage return, a line feed, both together, or one of three further
breaks; the two of them that are not lines of their own keep their character.
-/

set_option autoImplicit false

namespace EvidenceGrid.Yaml

def isBlank (c : Char) : Bool := c = ' ' || c = '\t'

def isBreak (c : Char) : Bool :=
  c = '\n' || c = '\r' || c = '\u0085' || c = '\u2028' || c = '\u2029'

def breakText (c : Char) : Char := if c = '\u2028' || c = '\u2029' then c else '\n'

def isAllowed (c : Char) : Bool :=
  c = '\t' || c = '\n' || c = '\r' || (' ' ≤ c && c ≤ '~') || c = '\u0085' ||
    ('\u00a0' ≤ c && c ≤ '\ufffd') || 0x10000 ≤ c.toNat

def isWord (c : Char) : Bool := c.isAlphanum || c = '_' || c = '-'

def atWordEnd : List Char → Bool
  | [] => true
  | c :: _ => isBlank c || isBreak c

def atMark (mark : Char) : List Char → Bool
  | a :: b :: c :: rest => a = mark && b = mark && c = mark && atWordEnd rest
  | _ => false

def atDocumentMark (input : List Char) : Bool := atMark '-' input || atMark '.' input

def orderMark : Char := '\ufeff'

structure Position where
  index : Nat
  line : Nat
  column : Nat
deriving DecidableEq, Repr

/-- The place after some more text. A carriage return and a line feed are one
break. -/
def Position.after (position : Position) : List Char → Position
  | [] => position
  | '\r' :: '\n' :: rest =>
    Position.after ⟨position.index + 2, position.line + 1, 0⟩ rest
  | c :: rest =>
    if isBreak c then Position.after ⟨position.index + c.utf8Size, position.line + 1, 0⟩ rest
    else Position.after ⟨position.index + c.utf8Size, position.line, position.column + 1⟩ rest

/-- Blanks and breaks between two words of one scalar. -/
structure Gap where
  spaces : List Char := []
  breaks : List Char := []
  broken : Bool := false
  /-- Whether the first break was escaped, so that it leaves nothing. -/
  escaped : Bool := false
  margin : Nat := 0

namespace Gap

def isEmpty (gap : Gap) : Bool := gap.spaces.isEmpty && !gap.broken

def blank (gap : Gap) (c : Char) : Gap :=
  if gap.broken then { gap with margin := gap.margin + 1 }
  else { gap with spaces := gap.spaces ++ [c] }

/-- The gap with one more break. Blanks before the first one are dropped. -/
def lineBreak (gap : Gap) (c : Char) : Gap :=
  { gap with spaces := [], breaks := gap.breaks ++ [breakText c], broken := true, margin := 0 }

def joined : Gap := { broken := true, escaped := true }

def atLineStart (gap : Gap) : Bool := gap.broken && gap.margin = 0

/-- What a gap becomes in the text: blanks stay, one line feed becomes a space,
and of several the first is dropped. -/
def text (gap : Gap) : List Char :=
  if !gap.broken then gap.spaces
  else if gap.escaped then gap.breaks
  else
    match gap.breaks with
    | ['\n'] => [' ']
    | '\n' :: later => later
    | breaks => breaks

end Gap

end EvidenceGrid.Yaml

import EvidenceGrid.Yaml.Text

/-!
Reading one scalar off the text: plain, in single or double quotes, or as an
indented block. Each function takes the text from where the scalar starts and
gives its value and the text after it, or nothing when the scalar is malformed.
-/

set_option autoImplicit false

namespace EvidenceGrid.Yaml

structure Lexeme where
  value : List Char
  rest : List Char
  broken : Bool := false

namespace Lexeme

def isFlowIndicator (c : Char) : Bool :=
  c = ',' || c = '[' || c = ']' || c = '\x7b' || c = '\x7d'

def isStrayColon (c : Char) (rest : List Char) : Bool :=
  c = ':' && rest.head?.any fun next => isFlowIndicator next || next = '?'

/-- A plain scalar goes on over several lines as long as they are indented to
`indent` or stand inside brackets. A tab may not stand in for that indentation. -/
def plainFrom (flow : Bool) (indent : Nat) (taken : List Char) (gap : Gap) :
    List Char → Option Lexeme
  | [] => some ⟨taken.reverse, [], gap.broken⟩
  | '\r' :: '\n' :: rest => plainFrom flow indent taken (gap.lineBreak '\n') rest
  | c :: rest =>
    if isBreak c then plainFrom flow indent taken (gap.lineBreak c) rest
    else if isBlank c then
      if gap.broken && c = '\t' && gap.margin < indent then none
      else plainFrom flow indent taken (gap.blank c) rest
    else if (!flow && gap.broken && gap.margin < indent)
        || (gap.atLineStart && atDocumentMark (c :: rest))
        || (!gap.isEmpty && c = '#') then
      some ⟨taken.reverse, c :: rest, gap.broken⟩
    else if flow && isStrayColon c rest then none
    else if (c = ':' && atWordEnd rest) || (flow && isFlowIndicator c) then
      some ⟨taken.reverse, c :: rest, gap.broken⟩
    else plainFrom flow indent (c :: (gap.text.reverse ++ taken)) {} rest

def plain (flow : Bool) (indent : Nat) (input : List Char) : Option Lexeme :=
  plainFrom flow indent [] {} input

def singleQuotedFrom (taken : List Char) (gap : Gap) : List Char → Option Lexeme
  | [] => none
  | '\'' :: '\'' :: rest => singleQuotedFrom ('\'' :: (gap.text.reverse ++ taken)) {} rest
  | '\'' :: rest => some ⟨(gap.text.reverse ++ taken).reverse, rest, false⟩
  | '\r' :: '\n' :: rest => singleQuotedFrom taken (gap.lineBreak '\n') rest
  | c :: rest =>
    if isBreak c then singleQuotedFrom taken (gap.lineBreak c) rest
    else if isBlank c then singleQuotedFrom taken (gap.blank c) rest
    else if gap.atLineStart && atDocumentMark (c :: rest) then none
    else singleQuotedFrom (c :: (gap.text.reverse ++ taken)) {} rest

def singleQuoted (input : List Char) : Option Lexeme := singleQuotedFrom [] {} input

def hexValue? (c : Char) : Option Nat :=
  if '0' ≤ c && c ≤ '9' then some (c.toNat - '0'.toNat)
  else if 'a' ≤ c && c ≤ 'f' then some (c.toNat - 'a'.toNat + 10)
  else if 'A' ≤ c && c ≤ 'F' then some (c.toNat - 'A'.toNat + 10)
  else none

def hexNumber? (digits : List Char) : Option Nat :=
  digits.foldlM (fun number c => (hexValue? c).map fun digit => number * 16 + digit) 0

def codePoint? (digits : List Char) : Option Char :=
  (hexNumber? digits).bind fun code => if code.isValidChar then some (Char.ofNat code) else none

def escape? (c : Char) : Option Char :=
  match c with
  | '0' => some '\x00'
  | 'a' => some '\x07'
  | 'b' => some '\x08'
  | 't' | '\t' => some '\t'
  | 'n' => some '\n'
  | 'v' => some '\x0b'
  | 'f' => some '\x0c'
  | 'r' => some '\r'
  | 'e' => some '\x1b'
  | ' ' => some ' '
  | '"' => some '"'
  | '/' => some '/'
  | '\\' => some '\\'
  | 'N' => some '\u0085'
  | '_' => some '\u00a0'
  | 'L' => some '\u2028'
  | 'P' => some '\u2029'
  | _ => none

/-- A scalar in double quotes, after the opening one. A backslash escapes a
character, names one by its code, or joins the next line on. -/
def doubleQuotedFrom (taken : List Char) (gap : Gap) : List Char → Option Lexeme
  | [] => none
  | '"' :: rest => some ⟨(gap.text.reverse ++ taken).reverse, rest, false⟩
  | '\\' :: '\r' :: '\n' :: rest => doubleQuotedFrom (gap.text.reverse ++ taken) .joined rest
  | '\\' :: 'x' :: a :: b :: rest =>
    match codePoint? [a, b] with
    | some c => doubleQuotedFrom (c :: (gap.text.reverse ++ taken)) {} rest
    | none => none
  | '\\' :: 'u' :: a :: b :: c :: d :: rest =>
    match codePoint? [a, b, c, d] with
    | some c => doubleQuotedFrom (c :: (gap.text.reverse ++ taken)) {} rest
    | none => none
  | '\\' :: 'U' :: a :: b :: c :: d :: e :: f :: g :: h :: rest =>
    match codePoint? [a, b, c, d, e, f, g, h] with
    | some c => doubleQuotedFrom (c :: (gap.text.reverse ++ taken)) {} rest
    | none => none
  | '\\' :: c :: rest =>
    if isBreak c then doubleQuotedFrom (gap.text.reverse ++ taken) .joined rest
    else
      match escape? c with
      | some c => doubleQuotedFrom (c :: (gap.text.reverse ++ taken)) {} rest
      | none => none
  | '\r' :: '\n' :: rest => doubleQuotedFrom taken (gap.lineBreak '\n') rest
  | c :: rest =>
    if isBreak c then doubleQuotedFrom taken (gap.lineBreak c) rest
    else if isBlank c then doubleQuotedFrom taken (gap.blank c) rest
    else if gap.atLineStart && atDocumentMark (c :: rest) then none
    else doubleQuotedFrom (c :: (gap.text.reverse ++ taken)) {} rest

def doubleQuoted (input : List Char) : Option Lexeme := doubleQuotedFrom [] {} input

inductive Chomping
  | strip
  | clip
  | keep
deriving DecidableEq

structure BlockHeader where
  chomping : Chomping := .clip
  increment : Option Nat := none

def chomping? (c : Char) : Option Chomping :=
  if c = '+' then some .keep else if c = '-' then some .strip else none

def blockHeader (input : List Char) : Option (BlockHeader × List Char) :=
  let digit (c : Char) : Option Nat := if c = '0' then none else some (c.toNat - '0'.toNat)
  match input with
  | [] => some ({}, [])
  | c :: rest =>
    match chomping? c with
    | some chomping =>
      match rest with
      | d :: later =>
        if d.isDigit then (digit d).map fun increment => (⟨chomping, some increment⟩, later)
        else some ({ chomping }, rest)
      | [] => some ({ chomping }, [])
    | none =>
      if c.isDigit then
        (digit c).map fun increment =>
          match rest with
          | d :: later =>
            match chomping? d with
            | some chomping => (⟨chomping, some increment⟩, later)
            | none => ({ increment := some increment }, rest)
          | [] => ({ increment := some increment }, [])
      else some ({}, input)

def emptyLine (input : List Char) : Option (List Char) :=
  let input := input.dropWhile isBlank
  let input := if input.head? = some '#' then input.dropWhile (fun c => !isBreak c) else input
  match input with
  | [] => some []
  | '\r' :: '\n' :: rest => some rest
  | c :: rest => if isBreak c then some rest else none

structure BlockLead where
  breaks : List Char
  column : Nat
  widest : Nat
  rest : List Char

/-- Skips indentation up to `indent`, or all of it when none is given. A tab may
not stand where indentation is still missing. -/
def blockLead (indent : Option Nat) (column widest : Nat) (breaks : List Char) :
    List Char → Option BlockLead
  | [] => some ⟨breaks, column, max widest column, []⟩
  | '\r' :: '\n' :: rest => blockLead indent 0 (max widest column) (breaks ++ ['\n']) rest
  | c :: rest =>
    let short := indent.all fun width => column < width
    if c = ' ' && short then blockLead indent (column + 1) widest breaks rest
    else if c = '\t' && short then none
    else if isBreak c then blockLead indent 0 (max widest column) (breaks ++ [breakText c]) rest
    else some ⟨breaks, column, max widest column, c :: rest⟩

def blockLine (input : List Char) : List Char × List Char × List Char :=
  let line := input.takeWhile fun c => !isBreak c
  match input.drop line.length with
  | [] => (line, [], [])
  | '\r' :: '\n' :: rest => (line, ['\n'], rest)
  | c :: rest => (line, [breakText c], rest)

/-- The breaks between two lines of a block. In a folded block one line feed
between two lines that do not start with a blank becomes a space, and of several
the first is dropped. -/
def blockJoin (folded : Bool) (afterBlank beforeBlank : Bool) (first later : List Char) :
    List Char :=
  if folded && first = ['\n'] && !afterBlank && !beforeBlank then
    if later.isEmpty then [' '] else later
  else first ++ later

/-- The lines of a block whose indentation is `indent`. The fuel is the length
of the text, since each line takes at least its break. -/
def blockLines (folded : Bool) (indent : Nat) :
    Nat → (taken first later : List Char) → (afterBlank : Bool) → (column : Nat) →
      List Char → Option (List Char × List Char × List Char × List Char)
  | 0, taken, first, later, _, _, rest => some (taken, first, later, rest)
  | fuel + 1, taken, first, later, afterBlank, column, input =>
    if column = indent && !input.isEmpty then
      let startsBlank := input.head?.any isBlank
      let joint := blockJoin folded afterBlank startsBlank first later
      let (line, ended, rest) := blockLine input
      match blockLead (some indent) 0 0 [] rest with
      | some lead =>
        blockLines folded indent fuel (taken ++ joint ++ line) ended lead.breaks startsBlank
          lead.column lead.rest
      | none => none
    else some (taken, first, later, input)

def block (folded : Bool) (outer : Int) (input : List Char) : Option Lexeme := do
  let (header, input) ← blockHeader input
  let input ← emptyLine input
  let given := header.increment.map fun increment =>
    if 0 ≤ outer then outer.toNat + increment else increment
  let lead ← blockLead given 0 0 [] input
  let indent := given.getD (max lead.widest (max (outer + 1).toNat 1))
  let (taken, first, later, rest) ←
    blockLines folded indent input.length [] [] lead.breaks false lead.column lead.rest
  let tail :=
    match header.chomping with
    | .strip => []
    | .clip => first
    | .keep => first ++ later
  return ⟨taken ++ tail, rest, true⟩

end Lexeme

end EvidenceGrid.Yaml

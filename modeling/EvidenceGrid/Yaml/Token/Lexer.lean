import EvidenceGrid.Yaml.Token.Property

/-!
Cutting YAML text into tokens. Two things need memory beyond the next character.
Indentation opens and closes blocks, so the open ones are kept on a stack. And
whether a value is a key shows only at the colon after it, so a value that may
be one is remembered with its place among the tokens, where the key token goes
in afterwards. Such a key has to fit on one line and within 1024 bytes.
-/

set_option autoImplicit false

namespace EvidenceGrid.Yaml

structure PossibleKey where
  place : Nat
  position : Position
  /-- A value at the indentation of a block mapping can only be a key. -/
  required : Bool

structure Lexer where
  rest : List Char
  position : Position := ⟨0, 0, 0⟩
  tokens : Array Token := #[]
  indent : Int := -1
  outer : List Int := []
  enclosing : List (Option PossibleKey) := []
  possible : Option PossibleKey := none
  keyAllowed : Bool := true

namespace Lexer

def inFlow (lexer : Lexer) : Bool := !lexer.enclosing.isEmpty

def emit (lexer : Lexer) (token : Token) : Lexer :=
  { lexer with tokens := lexer.tokens.push token }

def moveTo (lexer : Lexer) (rest : List Char) : Lexer :=
  let read := lexer.rest.take (lexer.rest.length - rest.length)
  { lexer with rest, position := lexer.position.after read }

def skip (lexer : Lexer) (count : Nat) : Lexer := lexer.moveTo (lexer.rest.drop count)

/-- What is left to skip between tokens: blanks, comments and breaks, and at the
start of a line one mark of the byte order, which takes a column. A tab is no
blank where a block could start after it. -/
def skipBetween (lexer : Lexer) (lineStart : Bool) : List Char → Lexer
  | [] => lexer.moveTo []
  | '\r' :: '\n' :: rest => skipBetween (newLine (lexer.moveTo rest)) true rest
  | c :: rest =>
    if c = ' ' || (c = '\t' && (lexer.inFlow || !lexer.keyAllowed)) ||
        (c = orderMark && lineStart) then
      skipBetween lexer false rest
    else if c = '#' then skipComment lexer rest
    else if isBreak c then skipBetween (newLine (lexer.moveTo rest)) true rest
    else lexer.moveTo (c :: rest)
where
  newLine (lexer : Lexer) : Lexer :=
    if lexer.inFlow then lexer else { lexer with keyAllowed := true }
  skipComment (lexer : Lexer) : List Char → Lexer
    | [] => lexer.moveTo []
    | '\r' :: '\n' :: rest => skipBetween (newLine (lexer.moveTo rest)) true rest
    | c :: rest =>
      if isBreak c then skipBetween (newLine (lexer.moveTo rest)) true rest
      else skipComment lexer rest

def dropKey (lexer : Lexer) : Option Lexer :=
  match lexer.possible with
  | some key => if key.required then none else some { lexer with possible := none }
  | none => some lexer

def isStale (position : Position) (key : PossibleKey) : Bool :=
  key.position.line < position.line || key.position.index + 1024 < position.index

/-- Forgets the possible keys, inner and outer, that are too far back. -/
def dropStaleKeys (lexer : Lexer) : Option Lexer := do
  let stale (key : Option PossibleKey) : Bool := key.any (isStale lexer.position)
  let refused (key : Option PossibleKey) : Bool := stale key && key.any PossibleKey.required
  if refused lexer.possible || lexer.enclosing.any refused then none
  let renew (key : Option PossibleKey) : Option PossibleKey := if stale key then none else key
  return { lexer with possible := renew lexer.possible, enclosing := lexer.enclosing.map renew }

def noteKey (lexer : Lexer) : Option Lexer :=
  if lexer.keyAllowed then do
    let lexer ← lexer.dropKey
    return { lexer with
      possible := some
        { place := lexer.tokens.size
          position := lexer.position
          required := !lexer.inFlow && lexer.indent = lexer.position.column } }
  else some lexer

/-- Opens a block at a column, unless one is open there. The token that says so
goes to a given place among the tokens. -/
def openBlock (lexer : Lexer) (column : Nat) (place : Nat) (token : Token) : Lexer :=
  if !lexer.inFlow && lexer.indent < column then
    { lexer with
      outer := lexer.indent :: lexer.outer
      indent := column
      tokens := lexer.tokens.insertIdxIfInBounds place token }
  else lexer

def closeBlocks (lexer : Lexer) (column : Int) : Lexer :=
  if lexer.inFlow then lexer else go lexer lexer.outer
where
  go (lexer : Lexer) : List Int → Lexer
    | [] => lexer
    | indent :: outer =>
      if column < lexer.indent then
        go { lexer.emit .blockEnd with indent, outer } outer
      else lexer

def startDocumentToken (lexer : Lexer) : Option Lexer := do
  let lexer ← (lexer.closeBlocks (-1)).dropKey
  return { lexer with keyAllowed := false }

def documentMark (lexer : Lexer) (token : Token) : Option Lexer := do
  return ((← lexer.startDocumentToken).emit token).skip 3

def directive (lexer : Lexer) : Option Lexer := do
  let lexer ← lexer.startDocumentToken
  let (token, rest) ← Property.directive (lexer.rest.drop 1)
  return (lexer.emit token).moveTo rest

def openFlow (lexer : Lexer) (token : Token) : Option Lexer := do
  let lexer ← lexer.noteKey
  return ({ lexer with
    enclosing := lexer.possible :: lexer.enclosing
    possible := none
    keyAllowed := true }.emit token).skip 1

def closeFlow (lexer : Lexer) (token : Token) : Option Lexer := do
  let lexer ← lexer.dropKey
  let lexer :=
    match lexer.enclosing with
    | possible :: enclosing => { lexer with possible, enclosing }
    | [] => lexer
  return ({ lexer with keyAllowed := false }.emit token).skip 1

def flowEntry (lexer : Lexer) : Option Lexer := do
  let lexer ← lexer.dropKey
  return ({ lexer with keyAllowed := true }.emit .flowEntry).skip 1

def openHere (lexer : Lexer) (token : Token) : Option Lexer :=
  if lexer.inFlow then some lexer
  else if lexer.keyAllowed then
    some (lexer.openBlock lexer.position.column lexer.tokens.size token)
  else none

def blockEntry (lexer : Lexer) : Option Lexer := do
  let lexer ← (← lexer.openHere .blockSequence).dropKey
  return ({ lexer with keyAllowed := true }.emit .blockEntry).skip 1

def key (lexer : Lexer) : Option Lexer := do
  let lexer ← (← lexer.openHere .blockMapping).dropKey
  return ({ lexer with keyAllowed := !lexer.inFlow }.emit .key).skip 1

/-- A colon makes the possible key before it a key. Without one it stands for
the value of a key that was given on its own, or of an empty one. -/
def value (lexer : Lexer) : Option Lexer :=
  match lexer.possible with
  | some key =>
    let lexer := { lexer with tokens := lexer.tokens.insertIdxIfInBounds key.place .key }
    let lexer := lexer.openBlock key.position.column key.place .blockMapping
    some (({ lexer with possible := none, keyAllowed := false }.emit .value).skip 1)
  | none => do
    let lexer ← lexer.openHere .blockMapping
    return ({ lexer with keyAllowed := !lexer.inFlow }.emit .value).skip 1

def keyLike (lexer : Lexer) (token : Token) (rest : List Char) : Option Lexer := do
  let lexer ← lexer.noteKey
  return ({ lexer with keyAllowed := false }.emit token).moveTo rest

def scalar (lexer : Lexer) (style : Style) (lexeme : Lexeme) : Option Lexer := do
  let lexer ← lexer.keyLike (.scalar (String.ofList lexeme.value) style) lexeme.rest
  return if lexeme.broken then { lexer with keyAllowed := true } else lexer

def block (lexer : Lexer) (folded : Bool) : Option Lexer := do
  let lexer ← lexer.dropKey
  let lexeme ← Lexeme.block folded lexer.indent (lexer.rest.drop 1)
  let style := if folded then Style.folded else Style.literal
  return ({ lexer with keyAllowed := true }.emit
    (.scalar (String.ofList lexeme.value) style)).moveTo lexeme.rest

def startsPlain (flow : Bool) (c : Char) (rest : List Char) : Bool :=
  if c = '-' then !rest.head?.any isBlank
  else if c = '?' || c = ':' then !flow && !atWordEnd rest
  else !(isBlank c || isBreak c || ",[]\x7b\x7d#&*!|>'\"%@\x60".contains c)

def token (lexer : Lexer) (c : Char) (rest : List Char) : Option Lexer :=
  let flow := lexer.inFlow
  let lineStart := lexer.position.column = 0
  if lineStart && c = '%' then lexer.directive
  else if lineStart && atMark '-' lexer.rest then lexer.documentMark .documentStart
  else if lineStart && atMark '.' lexer.rest then lexer.documentMark .documentEnd
  else if c = '[' then lexer.openFlow .flowSequence
  else if c = '\x7b' then lexer.openFlow .flowMapping
  else if c = ']' then lexer.closeFlow .flowSequenceEnd
  else if c = '\x7d' then lexer.closeFlow .flowMappingEnd
  else if c = ',' then lexer.flowEntry
  else if c = '-' && atWordEnd rest then lexer.blockEntry
  else if c = '?' && (flow || atWordEnd rest) then lexer.key
  else if c = ':' && (flow || atWordEnd rest) then lexer.value
  else if c = '*' then do
    let (name, later) ← Property.name rest
    lexer.keyLike (.alias name) later
  else if c = '&' then do
    let (name, later) ← Property.name rest
    lexer.keyLike (.anchor name) later
  else if c = '!' then do
    let (tag, later) ← Property.tag flow (c :: rest)
    lexer.keyLike tag later
  else if c = '|' && !flow then lexer.block false
  else if c = '>' && !flow then lexer.block true
  else if c = '\'' then do lexer.scalar .singleQuoted (← Lexeme.singleQuoted rest)
  else if c = '"' then do lexer.scalar .doubleQuoted (← Lexeme.doubleQuoted rest)
  else if startsPlain flow c rest then do
    lexer.scalar .plain (← Lexeme.plain flow (lexer.indent + 1).toNat (c :: rest))
  else none

def step (lexer : Lexer) : Option (Lexer ⊕ List Token) := do
  let lexer ← (lexer.skipBetween (lexer.position.column = 0) lexer.rest).dropStaleKeys
  match lexer.rest with
  | [] =>
    let lexer ← (lexer.closeBlocks (-1)).dropKey
    return .inr lexer.tokens.toList
  | c :: rest =>
    return .inl (← (lexer.closeBlocks lexer.position.column).token c rest)

/-- The tokens of the whole text. Every step but the last reads some of it, so
the length of the text bounds their number. -/
def run : Nat → Lexer → Option (List Token)
  | 0, _ => none
  | fuel + 1, lexer =>
    match lexer.step with
    | none => none
    | some (.inr tokens) => some tokens
    | some (.inl lexer) => run fuel lexer

end Lexer

def Token.ofText? (text : List Char) : Option (List Token) :=
  if text.all isAllowed then Lexer.run (text.length + 1) { rest := text } else none

end EvidenceGrid.Yaml

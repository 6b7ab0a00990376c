import EvidenceGrid.Yaml.Text
import EvidenceGrid.Yaml.Token
import EvidenceGrid.Yaml.Token.Scalar

/-!
Reading what may stand beside a value: anchors and aliases, tags, and the
directives at the head of a document. Each function takes the text after the
indicator and gives what it read and the text after it, or nothing when that is
malformed.
-/

set_option autoImplicit false

namespace EvidenceGrid.Yaml.Property

def span (inClass : Char → Bool) (input : List Char) : List Char × List Char :=
  (input.takeWhile inClass, input.dropWhile inClass)

def endsName : List Char → Bool
  | [] => true
  | c :: _ =>
    isBlank c || isBreak c || c = '?' || c = ':' || c = ',' || c = ']' || c = '\x7d' ||
      c = '%' || c = '@' || c = '\x60'

def name (input : List Char) : Option (String × List Char) :=
  let (taken, rest) := span isWord input
  if taken.isEmpty || !endsName rest then none else some (String.ofList taken, rest)

def isTagChar (wide : Bool) (c : Char) : Bool :=
  isWord c || ";/?:@&=+$.!~*'()%".contains c || (wide && (c = ',' || c = '[' || c = ']'))

def byteCount? (lead : Nat) : Option Nat :=
  if lead < 0x80 then some 1
  else if 0xC0 ≤ lead && lead < 0xE0 then some 2
  else if 0xE0 ≤ lead && lead < 0xF0 then some 3
  else if 0xF0 ≤ lead && lead < 0xF8 then some 4
  else none

/-- The bytes of a tag's text, its escapes put back. The bytes of one character
have to follow each other, each escaped; `pending` of them are still to come.
Whether they are the shortest form of the character does not matter. -/
def bytesFrom (pending : Nat) : List Char → Option TagName
  | [] => if pending = 0 then some [] else none
  | '%' :: a :: b :: rest => do
    let byte ← Lexeme.hexNumber? [a, b]
    let pending ←
      if pending = 0 then (byteCount? byte).map fun count => count - 1
      else if 0x80 ≤ byte && byte < 0xC0 then some (pending - 1)
      else none
    return UInt8.ofNat byte :: (← bytesFrom pending rest)
  | c :: rest => do
    if pending = 0 && c ≠ '%' then return UInt8.ofNat c.toNat :: (← bytesFrom 0 rest) else none

/-- The bytes of a tag's text up to the first one that is zero. -/
def decode (text : List Char) : Option TagName :=
  (bytesFrom 0 text).map fun bytes => bytes.takeWhile (· ≠ 0)

def handle (input : List Char) : Option (List Char × List Char) :=
  match input with
  | '!' :: rest =>
    let (word, rest) := span isWord rest
    match rest with
    | '!' :: later => some ('!' :: (word ++ ['!']), later)
    | _ => some ('!' :: word, rest)
  | _ => none

def endsTag (flow : Bool) (input : List Char) : Bool :=
  atWordEnd input || (flow && input.head? = some ',')

/-- A tag from its exclamation mark on, as handle and suffix. A tag in angle
brackets has no handle, and neither has a mark that stands alone. -/
def tag (flow : Bool) (input : List Char) : Option (Token × List Char) := do
  let (token, rest) ←
    match input with
    | '!' :: '<' :: rest => do
      let (text, rest) := span (isTagChar true) rest
      let suffix ← if text.isEmpty then none else decode text
      match rest with
      | '>' :: later => some (Token.tag "" suffix, later)
      | _ => none
    | _ => do
      let (start, rest) ← handle input
      let (text, rest) := span (isTagChar false) rest
      if 1 < start.length && start.getLast? = some '!' then
        let suffix ← if text.isEmpty then none else decode text
        some (Token.tag (String.ofList start) suffix, rest)
      else
        let suffix ← decode (start.drop 1 ++ text)
        some (if suffix.isEmpty then Token.tag "" (.ofText "!") else Token.tag "!" suffix, rest)
  if endsTag flow rest then return (token, rest) else none

def versionNumber (input : List Char) : Option (Nat × List Char) :=
  let (digits, rest) := span Char.isDigit input
  if digits.isEmpty || 9 < digits.length then none
  else ((String.ofList digits).toNat?).map fun number => (number, rest)

def version (input : List Char) : Option (Token × List Char) := do
  let (major, rest) ← versionNumber (input.dropWhile isBlank)
  match rest with
  | '.' :: rest =>
    let (minor, rest) ← versionNumber rest
    return (.version major minor, rest)
  | _ => none

def handleMeaning (input : List Char) : Option (Token × List Char) := do
  let (start, rest) ← handle (input.dropWhile isBlank)
  if start ≠ ['!'] && start.getLast? ≠ some '!' then none
  if !rest.head?.any isBlank then none
  let (text, rest) := span (isTagChar true) (rest.dropWhile isBlank)
  if text.isEmpty || !atWordEnd rest then none
  let stem ← decode text
  return (.handle (String.ofList start) stem, rest)

def directive (input : List Char) : Option (Token × List Char) := do
  let (word, rest) := span isWord input
  if word.isEmpty || !atWordEnd rest then none
  let (token, rest) ←
    if word = "YAML".toList then version rest
    else if word = "TAG".toList then handleMeaning rest
    else none
  return (token, ← Lexeme.emptyLine rest)

end EvidenceGrid.Yaml.Property

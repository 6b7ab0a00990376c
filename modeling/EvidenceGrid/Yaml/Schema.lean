import EvidenceGrid.Binary32.Decimal
import EvidenceGrid.Yaml.Node

/-!
What scalars mean: floats, whole numbers, truth values and the absence of a
value. Quoted scalars are texts and mean nothing else; a literal block means
something else only when a tag says so. A run of digits that starts with a zero
is no whole number, and is a float all the same.
-/

set_option autoImplicit false

namespace EvidenceGrid.Yaml

namespace Schema

def coreTag (name : String) : TagName := .ofText ("tag:yaml.org,2002:" ++ name)

def meaning? (name : String) : Node → Option (List Char)
  | .scalar text .plain _ => some text.toList
  | .scalar text .literal (some tag) => if tag = coreTag name then some text.toList else none
  | _ => none

def isSign (c : Char) : Bool := c = '+' || c = '-'

def withoutPlus (text : List Char) : Option (List Char) :=
  match text with
  | '+' :: rest => if rest.head?.any isSign then none else some rest
  | _ => some text

/-- Several digits with a zero in front, which are no whole number. -/
def isZeroPadded (text : List Char) : Bool :=
  let digits := if text.head?.any isSign then text.drop 1 else text
  1 < digits.length && digits.head? = some '0' && digits.all Char.isDigit

def digitsValue (digits : List Char) : Nat :=
  digits.foldl (fun number c => number * 10 + (c.toNat - '0'.toNat)) 0

def exponent? (text : List Char) : Option Int :=
  match text with
  | [] => some 0
  | c :: rest =>
    if c = 'e' || c = 'E' then
      let negative := rest.head? = some '-'
      let digits := if rest.head?.any isSign then rest.drop 1 else rest
      if digits.isEmpty || !digits.all Char.isDigit then none
      else some (if negative then -(digitsValue digits) else digitsValue digits)
    else none

def decimal? (text : List Char) : Option Binary32.Decimal :=
  let negative := text.head? = some '-'
  let text := if text.head?.any isSign then text.drop 1 else text
  let whole := text.takeWhile Char.isDigit
  let rest := text.dropWhile Char.isDigit
  let part := if rest.head? = some '.' then (rest.drop 1).takeWhile Char.isDigit else []
  let rest := if rest.head? = some '.' then (rest.drop 1).dropWhile Char.isDigit else rest
  if whole.isEmpty && part.isEmpty then none
  else
    (exponent? rest).map fun exponent =>
      { negative, digits := digitsValue (whole ++ part), exponent := exponent - part.length }

def infinity : Float32 := Float32.ofBits 0x7f800000

def notANumber : Float32 := Float32.ofBits 0x7fc00000

/-- A float. Infinities and NaN have names of their own; a decimal too large for
double precision is none, and one too large for single precision only becomes
infinite. -/
def float? (node : Node) : Option Float32 := do
  let text ← meaning? "float" node
  let unsigned ← withoutPlus text
  if [".inf", ".Inf", ".INF"].contains (String.ofList unsigned) then return infinity
  if ["-.inf", "-.Inf", "-.INF"].contains (String.ofList text) then return -infinity
  if [".nan", ".NaN", ".NAN"].contains (String.ofList text) then return notANumber
  (← decimal? unsigned).toBinary32?

def digit? (base : Nat) (c : Char) : Option Nat :=
  let value? :=
    if c.isDigit then some (c.toNat - '0'.toNat)
    else if 'a' ≤ c && c ≤ 'f' then some (c.toNat - 'a'.toNat + 10)
    else if 'A' ≤ c && c ≤ 'F' then some (c.toNat - 'A'.toNat + 10)
    else none
  value?.filter fun value => value < base

def natural? (base : Nat) (digits : List Char) : Option Nat :=
  if digits.isEmpty then none
  else digits.foldlM (fun number c => (digit? base c).map fun value => number * base + value) 0

def word? (node : Node) : Option UInt32 := do
  let text ← meaning? "int" node
  let unsigned ← withoutPlus text
  let number ←
    match unsigned with
    | '0' :: 'x' :: digits => natural? 16 digits
    | '0' :: 'o' :: digits => natural? 8 digits
    | '0' :: 'b' :: digits => natural? 2 digits
    | digits => if isZeroPadded text then none else natural? 10 digits
  if number < UInt32.size then return UInt32.ofNat number else none

def flag? (node : Node) : Option Bool := do
  let text := String.ofList (← meaning? "bool" node)
  if ["true", "True", "TRUE"].contains text then return true
  if ["false", "False", "FALSE"].contains text then return false
  none

def isNullText (text : String) : Bool := ["null", "Null", "NULL", "~"].contains text

/-- Whether a value is left out, or nothing when its tag says that it is and its
text does not. -/
def isAbsent? : Node → Option Bool
  | .scalar text .plain none => some (text.isEmpty || isNullText text)
  | .scalar text .plain (some tag) =>
    if tag = coreTag "null" then if isNullText text then some true else none else some false
  | _ => some false

def optionalWord? (node : Node) : Option (Option UInt32) := do
  if ← isAbsent? node then return none
  return some (← word? node)

end Schema

/-- The entries of a value that has named fields, by name. A value that is left
out has none. Every key has to be a scalar. -/
def Document.fields? (document : Document) (node : Node) : Option (List (String × Node)) :=
  match document.resolve node with
  | .mapping entries =>
    entries.mapM fun (key, value) =>
      match document.resolve key with
      | .scalar name _ _ => some (name, document.resolve value)
      | _ => none
  | .scalar "" .plain _ => some []
  | _ => none

/-- A field of a given name, read by its schema. A name that is given twice is a
fault, and so is a value that does not fit. -/
def field? {α : Type} (fields : List (String × Node)) (name : String)
    (read : Node → Option α) : Option (Option α) :=
  match fields.filter fun field => field.1 = name with
  | [] => some none
  | [(_, value)] => (read value).map some
  | _ => none

def fieldOr {α : Type} (fields : List (String × Node)) (name : String)
    (read : Node → Option α) (standard : α) : Option α :=
  (field? fields name read).map fun value => value.getD standard

def required? {α : Type} (fields : List (String × Node)) (name : String)
    (read : Node → Option α) : Option α :=
  (field? fields name read).bind id

end EvidenceGrid.Yaml

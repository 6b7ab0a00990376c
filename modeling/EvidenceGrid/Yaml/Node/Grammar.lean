import EvidenceGrid.Yaml.Node

/-!
From tokens to the document they write. Text holds at most one document here,
and everything after its end has to be empty as well; a text without any token
holds none. Anchors are numbered, and an alias stands for the number that the
last anchor of its name before it has. The number of an anchor is how many names
there were before it, so a name that comes again takes the number that the next
new name will take as well; of the values with one number the last one to start
counts.
-/

set_option autoImplicit false

namespace EvidenceGrid.Yaml.Grammar

structure Scope where
  handles : List (String × TagName)
  names : List (String × Nat) := []
  /-- The numbers of the anchors so far, the last one first, each with the place
  of the anchor among all of them. -/
  starts : List (Nat × Nat) := []
  values : List (Nat × Node) := []

def standardHandles : List (String × TagName) :=
  [("!", .ofText "!"), ("!!", .ofText "tag:yaml.org,2002:")]

def Scope.anchor (scope : Scope) (name : String) : Scope :=
  let number := scope.names.length
  { scope with
    names := (name, number) :: scope.names.filter fun known => known.1 ≠ name
    starts := (number, scope.starts.length) :: scope.starts }

/-- The values by number, of each number the last one to start before the
others. -/
def Scope.anchored (scope : Scope) : List (Nat × Node) :=
  scope.starts.filterMap fun (number, place) =>
    (scope.values.lookup place).map fun value => (number, value)

abbrev Result := Option (Node × Scope × List Token)

structure Properties where
  anchor : Option String := none
  tag : Option (String × TagName) := none

def properties : List Token → Properties × List Token
  | .anchor anchor :: .tag handle suffix :: rest =>
    (⟨some anchor, some (handle, suffix)⟩, rest)
  | .anchor anchor :: rest => ({ anchor := some anchor }, rest)
  | .tag handle suffix :: .anchor anchor :: rest =>
    (⟨some anchor, some (handle, suffix)⟩, rest)
  | .tag handle suffix :: rest => ({ tag := some (handle, suffix) }, rest)
  | tokens => ({}, tokens)

def Scope.tagOf (scope : Scope) (handle : String) (suffix : TagName) : Option TagName :=
  if handle.isEmpty then some suffix
  else (scope.handles.lookup handle).map fun stem => stem ++ suffix

def isNext (ends : List Token) (tokens : List Token) : Bool := tokens.head?.any ends.contains

mutual

/-- A value. Blocks may start where `inBlock` holds, and a sequence without
indentation of its own where `indentless` holds. -/
def node (fuel : Nat) (inBlock indentless : Bool) (scope : Scope) (tokens : List Token) :
    Result :=
  match fuel with
  | 0 => none
  | fuel + 1 =>
    match tokens with
    | .alias name :: rest =>
      (scope.names.lookup name).map fun anchor => (.alias anchor, scope, rest)
    | _ => do
      let (properties, rest) := properties tokens
      let tag ←
        match properties.tag with
        | some (handle, suffix) => (scope.tagOf handle suffix).map some
        | none => some none
      match properties.anchor with
      | none => content fuel inBlock indentless properties tag scope rest
      | some name =>
        let place := scope.starts.length
        let (value, scope, rest) ←
          content fuel inBlock indentless properties tag (scope.anchor name) rest
        return (value, { scope with values := (place, value) :: scope.values }, rest)

def content (fuel : Nat) (inBlock indentless : Bool) (properties : Properties)
    (tag : Option TagName) (scope : Scope) (tokens : List Token) : Result :=
  match fuel with
  | 0 => none
  | fuel + 1 =>
    match tokens, inBlock with
    | .scalar text style :: rest, _ => some (.scalar text style tag, scope, rest)
    | .flowSequence :: rest, _ => flowItems fuel [] scope rest
    | .flowMapping :: rest, _ => flowEntries fuel [] scope rest
    | .blockSequence :: rest, true => blockItems fuel [] scope rest
    | .blockMapping :: rest, true => blockEntries fuel [] scope rest
    | rest, _ =>
      if indentless && isNext [.blockEntry] rest then
        indentlessItems fuel [] scope rest
      else if properties.anchor.isSome || tag.isSome then some (.scalar "" .plain tag, scope, rest)
      else none

def optional (fuel : Nat) (inBlock indentless : Bool) (ends : List Token) (scope : Scope)
    (tokens : List Token) : Result :=
  match fuel with
  | 0 => none
  | fuel + 1 =>
    if isNext ends tokens then some (.empty, scope, tokens)
    else node fuel inBlock indentless scope tokens

def blockItems (fuel : Nat) (taken : List Node) (scope : Scope) (tokens : List Token) : Result :=
  match fuel with
  | 0 => none
  | fuel + 1 =>
    match tokens with
    | .blockEntry :: rest => do
      let (item, scope, rest) ← optional fuel true false [.blockEntry, .blockEnd] scope rest
      blockItems fuel (item :: taken) scope rest
    | .blockEnd :: rest => some (.sequence taken.reverse, scope, rest)
    | _ => none

def indentlessItems (fuel : Nat) (taken : List Node) (scope : Scope) (tokens : List Token) :
    Result :=
  match fuel with
  | 0 => none
  | fuel + 1 =>
    match tokens with
    | .blockEntry :: rest => do
      let (item, scope, rest) ←
        optional fuel true false [.blockEntry, .key, .value, .blockEnd] scope rest
      indentlessItems fuel (item :: taken) scope rest
    | _ => some (.sequence taken.reverse, scope, tokens)

def blockEntries (fuel : Nat) (taken : List (Node × Node)) (scope : Scope)
    (tokens : List Token) : Result :=
  match fuel with
  | 0 => none
  | fuel + 1 =>
    match tokens with
    | .key :: rest => do
      let (key, scope, rest) ← optional fuel true true [.key, .value, .blockEnd] scope rest
      let (value, scope, rest) ← blockValue fuel scope rest
      blockEntries fuel ((key, value) :: taken) scope rest
    | .blockEnd :: rest => some (.mapping taken.reverse, scope, rest)
    | _ => none

def blockValue (fuel : Nat) (scope : Scope) (tokens : List Token) : Result :=
  match fuel with
  | 0 => none
  | fuel + 1 =>
    match tokens with
    | .value :: rest => optional fuel true true [.key, .value, .blockEnd] scope rest
    | _ => some (.empty, scope, tokens)

def flowItems (fuel : Nat) (taken : List Node) (scope : Scope) (tokens : List Token) : Result :=
  match fuel with
  | 0 => none
  | fuel + 1 =>
    match tokens with
    | .flowSequenceEnd :: rest => some (.sequence taken.reverse, scope, rest)
    | .key :: rest => do
      let (item, scope, rest) ← flowPair fuel scope rest
      flowItemsAfter fuel (item :: taken) scope rest
    | _ => do
      let (item, scope, rest) ← node fuel false false scope tokens
      flowItemsAfter fuel (item :: taken) scope rest

def flowItemsAfter (fuel : Nat) (taken : List Node) (scope : Scope) (tokens : List Token) :
    Result :=
  match fuel with
  | 0 => none
  | fuel + 1 =>
    match tokens with
    | .flowSequenceEnd :: rest => some (.sequence taken.reverse, scope, rest)
    | .flowEntry :: rest => flowItems fuel taken scope rest
    | _ => none

/-- A mapping of one entry inside brackets. Where the key is left out, the token
in its place is passed over. -/
def flowPair (fuel : Nat) (scope : Scope) (tokens : List Token) : Result :=
  match fuel with
  | 0 => none
  | fuel + 1 => do
    let (key, scope, rest) ←
      if isNext [.value, .flowEntry, .flowSequenceEnd] tokens then
        some (Node.empty, scope, tokens.drop 1)
      else node fuel false false scope tokens
    match rest with
    | .value :: rest => do
      let (value, scope, rest) ←
        optional fuel false false [.flowEntry, .flowSequenceEnd] scope rest
      return (.mapping [(key, value)], scope, rest)
    | _ => return (.mapping [(key, .empty)], scope, rest)

def flowEntries (fuel : Nat) (taken : List (Node × Node)) (scope : Scope)
    (tokens : List Token) : Result :=
  match fuel with
  | 0 => none
  | fuel + 1 =>
    match tokens with
    | .flowMappingEnd :: rest => some (.mapping taken.reverse, scope, rest)
    | .key :: rest => do
      let (key, scope, rest) ←
        optional fuel false false [.value, .flowEntry, .flowMappingEnd] scope rest
      match rest with
      | .value :: rest => do
        let (value, scope, rest) ←
          optional fuel false false [.flowEntry, .flowMappingEnd] scope rest
        flowEntriesAfter fuel ((key, value) :: taken) scope rest
      | _ => flowEntriesAfter fuel ((key, .empty) :: taken) scope rest
    | _ => do
      let (key, scope, rest) ← node fuel false false scope tokens
      flowEntriesAfter fuel ((key, .empty) :: taken) scope rest

def flowEntriesAfter (fuel : Nat) (taken : List (Node × Node)) (scope : Scope)
    (tokens : List Token) : Result :=
  match fuel with
  | 0 => none
  | fuel + 1 =>
    match tokens with
    | .flowMappingEnd :: rest => some (.mapping taken.reverse, scope, rest)
    | .flowEntry :: rest => flowEntries fuel taken scope rest
    | _ => none

end

/-- The directives at the head of a document. The version may be named once and
has to be one that is read here; each handle may be given its meaning once. -/
def directives (named : Bool) (handles : List (String × TagName)) :
    List Token → Option (List (String × TagName) × List Token)
  | .version major minor :: rest =>
    if named || major ≠ 1 || (minor ≠ 1 && minor ≠ 2) then none else directives true handles rest
  | .handle name stem :: rest =>
    if (handles.lookup name).isSome then none else directives named ((name, stem) :: handles) rest
  | tokens => some (handles, tokens)

def isOver (tokens : List Token) : Bool := tokens.all fun token => token = .documentEnd

/-- The tokens from the start of a document's content on, with its handles. A
document with directives needs a mark where it starts. -/
def opening (tokens : List Token) : Option (List (String × TagName) × List Token) := do
  let (handles, rest) ← directives false [] tokens
  match rest with
  | .documentStart :: rest => return (handles ++ standardHandles, rest)
  | _ => if rest.length = tokens.length then return (standardHandles, rest) else none

end Grammar

/-- The document of some tokens. There is none in `some none`; `none` is for
tokens that write no document or more than one. The fuel covers every call,
since each token is looked at by a few of them only. -/
def Document.ofTokens? (tokens : List Token) : Option (Option Document) := do
  if tokens.isEmpty then return none
  let (handles, content) ← Grammar.opening tokens
  let marked := content.length < tokens.length
  if marked && Grammar.isOver content then return some ⟨.empty, []⟩
  else
    let (root, scope, rest) ←
      Grammar.node (6 * tokens.length + 6) true false { handles } content
    if Grammar.isOver rest then return some ⟨root, scope.anchored⟩ else none

end EvidenceGrid.Yaml

import ElementFinder.Yaml.PlainKind

/-!
# Documents of YAML

The one document of a text, as a graph of nodes. Inside blocks and brackets a node may be missing; an
empty text stands in its place, which shows null.
-/

namespace ElementFinder.Yaml

/-- The kind of a text: by its full tag, or by its form if it has none and no quotes. -/
def scalarTag (tag : Option String) (text : String) (plain : Bool) : Tag :=
  match tag with
  | some t => if t = "!" then .ofPlain text else .ofName t
  | none => if plain then .ofPlain text else .text

/-- The kind of a collection: by its full tag, or the usual one. -/
def collectionTag (tag : Option String) (usual : Tag) : Tag :=
  match tag with
  | some t => if t = "!" then usual else .ofName t
  | none => usual

namespace Compose

/-- A collection; it has its number and its name before what is in it is read. -/
def enclose (name : Option String) (tag : Tag) (body : Compose Content) : Compose Nat := do
  let number ← add name ⟨tag, .items []⟩
  let c ← body
  modify fun s => { s with nodes := s.nodes.setContent number c }
  return number

/-- A node that is missing. -/
def noNode : Compose Nat := add none ⟨.null, .text ""⟩

/-- The next token is one of those given. -/
def meets (ts : List Token) : Compose Bool := do
  return ts.contains (← peek)

mutual

/-- A node; `block` allows blocks, `indentless` a sequence of dashes that no block encloses. -/
def node : Nat → Bool → Bool → Compose Nat
  | 0, _, _ => reject "too many nodes"
  | fuel + 1, block, indentless => do
    match ← peek with
    | .alias name =>
      advance
      referTo name
    | _ =>
      let (name, written) ← properties
      let tag ← match written with
        | none => pure none
        | some t => some <$> fullTag t
      content fuel block indentless name tag

/-- A node after its name and its tag. -/
def content : Nat → Bool → Bool → Option String → Option String → Compose Nat
  | 0, _, _, _, _ => reject "too many nodes"
  | fuel + 1, block, indentless, name, tag => do
    let t ← peek
    if t == .blockEntry && indentless then
      enclose name (collectionTag tag .sequence) (.items <$> indentlessItems fuel [])
    else match t with
      | .scalar text plain =>
        advance
        add name ⟨scalarTag tag text plain, .text text⟩
      | .flowSequence =>
        advance
        enclose name (collectionTag tag .sequence) (.items <$> flowItems fuel true [])
      | .flowMapping =>
        advance
        enclose name (collectionTag tag .mapping) (.entries <$> flowEntries fuel true [])
      | _ =>
        if t == .blockSequence && block then
          advance
          enclose name (collectionTag tag .sequence) (.items <$> blockItems fuel [])
        else if t == .blockMapping && block then
          advance
          enclose name (collectionTag tag .mapping) (.entries <$> blockEntries fuel [])
        else if name.isSome || tag.isSome then add name ⟨scalarTag tag "" true, .text ""⟩
        else reject "expected the node content"

def blockItems : Nat → List Nat → Compose (List Nat)
  | 0, _ => reject "too many nodes"
  | fuel + 1, acc => do
    match ← peek with
    | .blockEntry =>
      advance
      let missing ← meets [.blockEntry, .blockEnd]
      let n ← if missing then noNode else node fuel true false
      blockItems fuel (n :: acc)
    | .blockEnd =>
      advance
      return acc.reverse
    | _ => reject "expected <block end>"

def indentlessItems : Nat → List Nat → Compose (List Nat)
  | 0, _ => reject "too many nodes"
  | fuel + 1, acc => do
    match ← peek with
    | .blockEntry =>
      advance
      let missing ← meets [.blockEntry, .key, .value, .blockEnd]
      let n ← if missing then noNode else node fuel true false
      indentlessItems fuel (n :: acc)
    | _ => return acc.reverse

def blockEntries : Nat → List (Nat × Nat) → Compose (List (Nat × Nat))
  | 0, _ => reject "too many nodes"
  | fuel + 1, acc => do
    match ← peek with
    | .key =>
      advance
      let ends := [Token.key, .value, .blockEnd]
      let missing ← meets ends
      let k ← if missing then noNode else node fuel true true
      match ← peek with
      | .value =>
        advance
        let missing ← meets ends
        let v ← if missing then noNode else node fuel true true
        blockEntries fuel ((k, v) :: acc)
      | _ => blockEntries fuel ((k, ← noNode) :: acc)
    | .blockEnd =>
      advance
      return acc.reverse
    | _ => reject "expected <block end>"

/-- The key and the value of an entry in brackets, after its question mark. -/
def flowPair : Nat → Token → Compose (Nat × Nat)
  | 0, _ => reject "too many nodes"
  | fuel + 1, ending => do
    let missing ← meets [.value, .flowEntry, ending]
    let k ← if missing then noNode else node fuel false false
    match ← peek with
    | .value =>
      advance
      let missing ← meets [.flowEntry, ending]
      let v ← if missing then noNode else node fuel false false
      return (k, v)
    | _ => return (k, ← noNode)

/-- The items in brackets after those read before; a pair is a mapping with one entry. -/
def flowItems : Nat → Bool → List Nat → Compose (List Nat)
  | 0, _, _ => reject "too many nodes"
  | fuel + 1, first, acc => do
    let closed ← meets [.flowSequenceEnd]
    if closed then
      advance
      return acc.reverse
    else
      separator first "expected \x27,\x27 or \x27]\x27"
      match ← peek with
      | .flowSequenceEnd =>
        advance
        return acc.reverse
      | .key =>
        advance
        let entry ← flowPair fuel .flowSequenceEnd
        let n ← add none ⟨.mapping, .entries [entry]⟩
        flowItems fuel false (n :: acc)
      | _ =>
        let n ← node fuel false false
        flowItems fuel false (n :: acc)

/-- The entries in braces after those read before; a key may stand without a value. -/
def flowEntries : Nat → Bool → List (Nat × Nat) → Compose (List (Nat × Nat))
  | 0, _, _ => reject "too many nodes"
  | fuel + 1, first, acc => do
    let closed ← meets [.flowMappingEnd]
    if closed then
      advance
      return acc.reverse
    else
      separator first "expected \x27,\x27 or \x27\x7d\x27"
      match ← peek with
      | .flowMappingEnd =>
        advance
        return acc.reverse
      | .key =>
        advance
        let entry ← flowPair fuel .flowMappingEnd
        flowEntries fuel false (entry :: acc)
      | _ =>
        let n ← node fuel false false
        flowEntries fuel false ((n, ← noNode) :: acc)

/-- The comma before an item that is not the first one. -/
def separator (first : Bool) (reason : String) : Compose Unit := do
  if first then pure ()
  else
    match ← peek with
    | .flowEntry => advance
    | _ => reject reason

end

def directives : Nat → Bool → List (String × String) → Compose (List (String × String))
  | 0, _, handles => return handles
  | fuel + 1, versioned, handles => do
    match ← peek with
    | .directive d =>
      advance
      match d with
      | .version major _ =>
        if versioned then reject "found duplicate YAML directive"
        else if major ≠ 1 then reject "found incompatible YAML document"
        else directives fuel true handles
      | .handle name start =>
        if handles.any (·.1 == name) then reject "duplicate tag handle"
        else directives fuel versioned ((name, start) :: handles)
      | .other => directives fuel versioned handles
    | _ => return handles

/-- The handles of tags that every document knows unless it gives them another meaning. -/
def usualHandles : List (String × String) := [("!", "!"), ("!!", commonTags)]

def skipEndMarks : Nat → Compose Unit
  | 0 => pure ()
  | fuel + 1 => do
    let more ← meets [.documentEnd]
    if more then
      advance
      skipEndMarks fuel

def markedDocument (fuel : Nat) : Compose Nat := do
  let handles ← directives fuel false []
  modify fun s => { s with handles := handles ++ usualHandles }
  let marked ← meets [.documentStart]
  if !marked then reject "expected \x27<document start>\x27"
  else
    advance
    let t ← peek
    match t with
    | .directive _ | .documentStart | .documentEnd | .streamEnd => noNode
    | _ => node fuel true false

/-- The first document of the text, if there is one. -/
def firstDocument (fuel : Nat) : Compose (Option Nat) := do
  match ← peek with
  | .streamEnd => return none
  | .directive _ | .documentStart => some <$> markedDocument fuel
  | _ =>
    modify fun s => { s with handles := usualHandles }
    some <$> node fuel true false

/-- The one document of the text; a second one is refused. -/
def onlyDocument (fuel : Nat) : Compose (Option Nat) := do
  let found ← firstDocument fuel
  skipEndMarks fuel
  let ended ← meets [.streamEnd]
  if ended then return found
  else
    let _ ← directives fuel false []
    reject "expected a single document in the stream"

end Compose

/-- A text may hold tabs, line breaks and all characters with a form, but no other control codes. -/
def isAllowed (c : Char) : Bool :=
  let n := c.toNat
  c == '\t' || c == '\n' || c == '\r' || (32 ≤ n && n < 127) || n == 0x85
    || (0xA0 ≤ n && n != 0xFFFE && n != 0xFFFF)

/-- A document: its nodes and the number of the outermost one. -/
structure Document where
  nodes : Graph
  root : Nat

/-- The document of a text; none if the text is empty. -/
def readDocument (text : String) : Except Fault (Option Document) := do
  if !text.toList.all isAllowed then malformed "special characters are not allowed"
  else
    let tokens := Tokens.ofText text
    let (found, s) ←
      (Compose.onlyDocument (4 * tokens.list.length + 8)).run { tokens := tokens.list, fault := tokens.fault }
    return found.map fun root => ⟨s.nodes, root⟩

end ElementFinder.Yaml

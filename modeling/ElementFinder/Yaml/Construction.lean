import ElementFinder.Yaml.Document
import ElementFinder.Yaml.Scalar

/-!
# Values of nodes

Every node has one value, which all collections that the node is in share. A collection is there before
it is filled, so it can be in itself. Collections are filled in the order in which they are found: of
several faults the one nearest to the root counts, and of those at one distance the first.
-/

namespace ElementFinder.Yaml

/-- The value of a node, where other values stand as the numbers of their nodes. -/
inductive Part where
  | value (v : Value)
  | list (items : List Nat)
  | pairs (items : List (Nat × Nat))
  | set (keys : List Nat)
  | map (entries : List (Nat × Nat))
  deriving Inhabited

namespace Part

def isKey : Part → Bool
  | .value v => v.isKey
  | _ => false

def isMap : Part → Bool
  | .map _ => true
  | _ => false

end Part

namespace Graph

/-- The text of a node that has to be a text; a mapping may give it under a key of its own. A mapping that
gives itself never ends, so it still goes on after as many steps as there are nodes. -/
def textAt (g : Graph) : Nat → Nat → Except Fault String
  | 0, _ => noValue .endless
  | fuel + 1, n =>
    match (g.node n).content with
    | .text s => .ok s
    | .items _ => malformed "expected a scalar node"
    | .entries es =>
      match es.find? fun e => (g.node e.1).tag == .value with
      | some e => textAt g fuel e.2
      | none => malformed "expected a scalar node"

/-- The value of a node that has to be a text, by its tag. -/
def scalarAt (g : Graph) (n : Nat) : Except Fault Value := do
  let text ← g.textAt (g.length + 1) n
  match (g.node n).tag, (g.node n).content with
  | .timestamp, .entries _ => noValue .wrongType
  | tag, _ => scalarValue tag text

end Graph

/-- The collection of a tag before it is filled. -/
def emptyPart? : Tag → Option Part
  | .sequence => some (.list [])
  | .mapping => some (.map [])
  | .set => some (.set [])
  | .orderedMap | .pairs => some (.pairs [])
  | _ => none

def isScalarTag : Tag → Bool
  | .null | .bool | .int | .float | .binary | .timestamp | .text => true
  | _ => false

/-- The nodes, the values found so far, and the collections that are not filled yet. -/
structure Builder where
  nodes : Graph
  parts : List (Option Part)
  waiting : List Nat := []

/-- A step that finds values. -/
abbrev Build (α : Type) := StateT Builder (Except Fault) α

namespace Build

def node (n : Nat) : Build Node := return (← get).nodes.node n

def part? (n : Nat) : Build (Option Part) := return (← get).parts.getD n none

def record (n : Nat) (p : Part) : Build Unit :=
  modify fun s => { s with parts := s.parts.set n (some p) }

/-- Finds the value of a node: that of a text at once, that of a collection to be filled later. -/
def find (n : Nat) : Build Unit := do
  if (← part? n).isNone then
    let s ← get
    let tag := (s.nodes.node n).tag
    if isScalarTag tag then record n (.value (← s.nodes.scalarAt n))
    else match emptyPart? tag with
      | some p =>
        record n p
        modify fun s => { s with waiting := s.waiting ++ [n] }
      | none => malformed "could not determine a constructor for the tag"

/-- Takes the first entry with which a mapping takes over others, and gives what stands for these. -/
def takeMerge (n : Nat) : Build (Option Nat) := do
  let s ← get
  let es := s.nodes.entries n
  match es.findIdx? fun e => (s.nodes.node e.1).tag == .merge with
  | none => return none
  | some i =>
    set { s with nodes := s.nodes.setContent n (.entries (es.eraseIdx i)) }
    return (es[i]?).map (·.2)

/-- Puts entries in front of those of a mapping. A key that was meant to give the value of the mapping is
a text from now on. -/
def putInFront (taken : List (Nat × Nat)) (n : Nat) : Build Unit := do
  let s ← get
  let es := s.nodes.entries n
  let nodes := es.foldl (fun g e => g.modify e.1 fun k =>
    if k.tag = .value then { k with tag := .text } else k) s.nodes
  set { s with nodes := nodes.setContent n (.entries (taken ++ es)) }

mutual

/-- Puts the entries that a mapping takes over in front of its own, after those taken over before. -/
def flatten : Nat → List (Nat × Nat) → Nat → Build Unit
  | 0, _, _ => malformed "too many nodes"
  | fuel + 1, taken, n => do
    match ← takeMerge n with
    | none => putInFront taken n
    | some source =>
      let more ← handedOver fuel source
      flatten fuel (taken ++ more) n

/-- The entries that a mapping, or a list of mappings from the last to the first, hands over. -/
def handedOver : Nat → Nat → Build (List (Nat × Nat))
  | 0, _ => malformed "too many nodes"
  | fuel + 1, source => do
    match (← node source).content with
    | .entries _ =>
      flatten fuel [] source
      return (← get).nodes.entries source
    | .items ns =>
      let parts ← ns.mapM fun n => do
        match (← node n).content with
        | .entries _ =>
          flatten fuel [] n
          return (← get).nodes.entries n
        | _ => malformed "expected a mapping for merging"
      return parts.reverse.flatten
    | .text _ => malformed "expected a mapping or list of mappings for merging"

end

/-- The entries of a mapping with those it takes over; each key has to be one that a mapping can have. -/
def entriesOf (n : Nat) : Build (List (Nat × Nat)) := do
  -- each step takes a merging entry away or looks into a mapping without one
  let all := (← get).nodes.flatMap (·.content.pairs)
  flatten (2 * all.length + 2) [] n
  let es := (← get).nodes.entries n
  es.forM fun e => do
    find e.1
    if !((← part? e.1).any Part.isKey) then malformed "found unhashable key"
    find e.2
  return es

/-- A pair, written as a mapping with one entry. -/
def pairOf (n : Nat) : Build (Nat × Nat) := do
  match (← node n).content with
  | .entries [e] =>
    find e.1
    find e.2
    return e
  | .entries _ => malformed "expected a single mapping item"
  | _ => malformed "expected a mapping of length 1"

/-- Fills a collection. -/
def fill (n : Nat) : Build Unit := do
  let node ← node n
  match node.tag, node.content with
  | .sequence, .items ns =>
    ns.forM find
    record n (.list ns)
  | .sequence, _ => malformed "expected a sequence node"
  | .orderedMap, .items ns | .pairs, .items ns => record n (.pairs (← ns.mapM pairOf))
  | .orderedMap, _ | .pairs, _ => malformed "expected a sequence"
  | .set, .entries _ => record n (.set ((← entriesOf n).map (·.1)))
  | _, .entries _ => record n (.map (← entriesOf n))
  | _, _ => malformed "expected a mapping node"

/-- Fills the collections that wait, and those that are found on the way; each waits once. -/
def fillAll : Nat → Build Unit
  | 0 => pure ()
  | fuel + 1 => do
    let s ← get
    match s.waiting with
    | [] => pure ()
    | n :: rest =>
      set { s with waiting := rest }
      fill n
      fillAll fuel

end Build

/-- The values of the nodes of a document. -/
def Document.parts (d : Document) : Except Fault (List Part) := do
  let count := d.nodes.length
  let build := do
    Build.find d.root
    Build.fillAll count
  let (_, s) ← build.run ⟨d.nodes, List.replicate count none, []⟩
  return s.parts.map fun p => p.getD (.value .null)

end ElementFinder.Yaml

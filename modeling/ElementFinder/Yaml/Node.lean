import ElementFinder.Yaml.Token

/-!
# Nodes of a YAML document

The graph that the tokens of a document spell: texts, sequences and mappings, each with the tag that
says what kind of value it stands for. Nodes have numbers, by which a collection refers to what is in
it. A name stands for the number of its node, so one node can be in many others and in itself.
-/

namespace ElementFinder.Yaml

/-- What kind of value a node stands for. -/
inductive Tag where
  | null
  | bool
  | int
  | float
  | binary
  | timestamp
  | orderedMap
  | pairs
  | set
  | text
  | sequence
  | mapping
  | merge
  | value
  | unknown
  deriving DecidableEq, Repr

def commonTags : String := "tag:yaml.org,2002:"

/-- The kind that a full tag names. -/
def Tag.ofName (name : String) : Tag :=
  let known : List (String × Tag) :=
    [("null", .null), ("bool", .bool), ("int", .int), ("float", .float), ("binary", .binary),
      ("timestamp", .timestamp), ("omap", .orderedMap), ("pairs", .pairs), ("set", .set),
      ("str", .text), ("seq", .sequence), ("map", .mapping), ("merge", .merge), ("value", .value)]
  ((known.find? fun k => commonTags ++ k.1 = name).map (·.2)).getD .unknown

/-- What is in a node: a text, or other nodes by their numbers. -/
inductive Content where
  | text (s : String)
  | items (ns : List Nat)
  | entries (es : List (Nat × Nat))

/-- The entries of a mapping. -/
def Content.pairs : Content → List (Nat × Nat)
  | .entries es => es
  | _ => []

/-- A node. -/
structure Node where
  tag : Tag
  content : Content

/-- The nodes of a document by their numbers. -/
abbrev Graph := List Node

namespace Graph

def node (g : Graph) (n : Nat) : Node := g.getD n ⟨.null, .text ""⟩

def entries (g : Graph) (n : Nat) : List (Nat × Nat) := (g.node n).content.pairs

def setContent (g : Graph) (n : Nat) (c : Content) : Graph :=
  g.modify n fun node => { node with content := c }

end Graph

/-- The tokens that are left, the fault behind them, the nodes so far with their names, and the handles
of tags. -/
structure Composer where
  tokens : List Token
  fault : Option Fault
  nodes : Graph := []
  names : List (String × Nat) := []
  handles : List (String × String) := []

/-- A step that reads tokens. -/
abbrev Compose (α : Type) := StateT Composer (Except Fault) α

namespace Compose

/-- Breaks off at a text that breaks the rules. -/
def reject {α : Type} (reason : String) : Compose α := throw (.malformed reason)

/-- The next token. -/
def peek : Compose Token := do
  let s ← get
  match s.tokens with
  | t :: _ => return t
  | [] => throw (s.fault.getD (.malformed "the text ends"))

/-- Passes the next token. -/
def advance : Compose Unit := modify fun s => { s with tokens := s.tokens.drop 1 }

/-- A new node; each name is given once. -/
def add (name : Option String) (n : Node) : Compose Nat := do
  let s ← get
  let number := s.nodes.length
  match name with
  | none => set { s with nodes := s.nodes ++ [n] }
  | some name =>
    if s.names.any (·.1 == name) then reject "found duplicate anchor"
    else set { s with nodes := s.nodes ++ [n], names := (name, number) :: s.names }
  return number

def referTo (name : String) : Compose Nat := do
  match (← get).names.find? (·.1 == name) with
  | some (_, number) => return number
  | none => reject "found undefined alias"

def fullTag (t : WrittenTag) : Compose String := do
  match t.handle with
  | none => return t.suffix
  | some h =>
    match (← get).handles.find? (·.1 == h) with
    | some (_, start) => return start ++ t.suffix
    | none => reject "found undefined tag handle"

/-- The name and the tag before a node, in either order. -/
def properties : Compose (Option String × Option WrittenTag) := do
  match ← peek with
  | .anchor n =>
    advance
    match ← peek with
    | .tag t => advance; return (some n, some t)
    | _ => return (some n, none)
  | .tag t =>
    advance
    match ← peek with
    | .anchor n => advance; return (some n, some t)
    | _ => return (none, some t)
  | _ => return (none, none)

end Compose

end ElementFinder.Yaml

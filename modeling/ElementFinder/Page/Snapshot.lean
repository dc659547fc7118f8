import ElementFinder.Page.Node

/-!
# Snapshots

The elements of one page in document order, each with the number of its parent. A snapshot arises
from a forest by numbering the nodes as they are met.
-/

namespace ElementFinder

/-- An element with the elements inside it. -/
inductive Tree where
  | node (attributes : Attributes) (children : List Tree)

mutual

/-- The nodes of a tree in document order, numbered from `start`. -/
def Tree.nodes (parent : Option Nat) (depth start : Nat) : Tree → List Node
  | .node a children =>
    ⟨a, start, parent, depth⟩ :: forestNodes (some start) (depth + 1) (start + 1) children

/-- The nodes of neighbouring trees in document order, numbered from `start`. -/
def forestNodes (parent : Option Nat) (depth start : Nat) : List Tree → List Node
  | [] => []
  | t :: rest =>
    let here := t.nodes parent depth start
    here ++ forestNodes parent depth (start + here.length) rest

end

/-- The elements of one page. -/
structure Snapshot where
  nodes : List Node
  deriving DecidableEq, Repr

namespace Snapshot

def ofForest (roots : List Tree) : Snapshot := ⟨forestNodes none 0 0 roots⟩

def node? (s : Snapshot) (id : Nat) : Option Node := s.nodes[id]?

def parent? (s : Snapshot) (n : Node) : Option Node := n.parent.bind s.node?

/-- The nearest ancestors of a node, up to a number of them. -/
def ancestorsUpTo (s : Snapshot) : Nat → Node → List Node
  | 0, _ => []
  | fuel + 1, n =>
    match s.parent? n with
    | none => []
    | some p => p :: s.ancestorsUpTo fuel p

/-- The ancestors of a node, nearest first. A parent comes before its child, so there are no more of
them than nodes. -/
def ancestors (s : Snapshot) (n : Node) : List Node := s.ancestorsUpTo s.nodes.length n

def children (s : Snapshot) (n : Node) : List Node :=
  s.nodes.filter fun m => m.parent == some n.id

/-- The nodes without a parent. -/
def roots (s : Snapshot) : List Node := s.nodes.filter fun n => n.parent.isNone

end Snapshot

end ElementFinder

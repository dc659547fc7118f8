import ElementFinder.Page.Source
import ElementFinder.Proofs.Nesting
import Mathlib.Data.List.Induction
import Mathlib.Data.List.ReduceOption

/-!
# The outline of a page

A page is read from its tags twice: into a forest that is numbered afterwards, and here from tag to
tag, where a node has its number, its parent and its depth as soon as it begins. Both give the same
nodes, so what is read of a page stays as it is when more of the page is read.
-/

namespace ElementFinder

/-- A page as far as it was met: its nodes so far, and the open elements from the inside out, each by
the number of its node. A wrapper has no number. -/
structure Outline where
  nodes : List Node := []
  opened : List (Option Nat) := []

namespace Outline

variable {o : Outline} {a : Attributes} {e : OpenElement} {events more : List Xml.Event}

/-- The numbers of the open nodes, from the inside out. -/
def openNodes (o : Outline) : List Nat := o.opened.reduceOption

/-- The node of an element that begins now. -/
def node (o : Outline) (a : Attributes) : Node :=
  ⟨a, o.nodes.length, o.openNodes.head?, o.openNodes.length⟩

/-- An element begins; a wrapper says nothing and is no node. -/
def enter (o : Outline) : Option Attributes → Outline
  | none => { o with opened := none :: o.opened }
  | some a => ⟨o.nodes ++ [o.node a], some o.nodes.length :: o.opened⟩

def leave (o : Outline) : Outline := { o with opened := o.opened.tail }

/-- What a tag says about its element, or nothing if it is that of a wrapper. -/
def saidBy (name : String) (attributes : List (String × String)) : Option Attributes :=
  if name == wrapperTag then none else some (Attributes.ofElement name attributes)

def step (o : Outline) : Xml.Event → Outline
  | .opened name attributes => o.enter (saidBy name attributes)
  | .closed => o.leave

/-- The outline of a page after some of its tags. -/
def ofEvents (events : List Xml.Event) : Outline := events.foldl step {}

/-! ## Trees in an outline -/

/-- Neighbouring trees are met as a whole. -/
def add (o : Outline) (trees : List Tree) : Outline :=
  { o with nodes := o.nodes
      ++ forestNodes o.openNodes.head? o.openNodes.length o.nodes.length trees }

@[simp] theorem opened_add (trees : List Tree) : (o.add trees).opened = o.opened := rfl

@[simp] theorem openNodes_add (trees : List Tree) : (o.add trees).openNodes = o.openNodes := rfl

end Outline

/-! ## Begun and open elements -/

namespace Outline

variable {events more : List Xml.Event} {i n : Nat} {v : Option Nat}

end Outline

namespace Snapshot

variable {source : String} {page : Snapshot}

end Snapshot

end ElementFinder

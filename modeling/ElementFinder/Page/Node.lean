import ElementFinder.Page.Bounds

/-!
# Nodes

What a page source says about one element, and the element as a node of a snapshot.
-/

namespace ElementFinder

/-- What a page source says about one element. -/
structure Attributes where
  type : String := ""
  name : String := ""
  label : String := ""
  value : String := ""
  placeholder : String := ""
  bounds : Bounds := {}
  enabled : Bool := true
  displayed : Bool := true
  selected : Bool := false
  focused : Bool := false
  deriving DecidableEq, Repr, Inhabited

/-- The attributes that carry text, in the order in which they are compared. -/
def Attributes.texts (a : Attributes) : List String :=
  [a.label, a.name, a.value, a.placeholder]

/-- An element of a snapshot: its attributes, its number, its parent and the number of its
ancestors. -/
structure Node where
  attributes : Attributes := {}
  id : Nat := 0
  parent : Option Nat := none
  depth : Nat := 0
  deriving DecidableEq, Repr, Inhabited

/-- The rectangle of a node. -/
def Node.bounds (n : Node) : Bounds := n.attributes.bounds

def Node.type (n : Node) : String := n.attributes.type

end ElementFinder

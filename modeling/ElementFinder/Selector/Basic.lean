import ElementFinder.Selector.Relation

/-!
# Selectors

What an element has to look like and how it has to lie to other elements. A field that is not set
puts no condition. Of several relations the first in order of priority is the active one.
-/

namespace ElementFinder

/-- Conditions on a single element. -/
structure Criteria where
  text : Option String := none
  id : Option String := none
  width : Option Int := none
  height : Option Int := none
  tolerance : Option Int := none
  enabled : Option Bool := none
  selected : Option Bool := none
  focused : Option Bool := none
  deriving DecidableEq, Repr, Inhabited

/-- One optional anchor for each relation. -/
structure Anchors (α : Type) where
  below : Option α := none
  above : Option α := none
  leftOf : Option α := none
  rightOf : Option α := none
  childOf : Option α := none
  containsChild : Option α := none
  insideOf : Option α := none
  deriving Inhabited

/-- A query for an element: conditions on the element, a position among several matches, anchors
that it lies to in some relation, and descendants that lie inside it. -/
structure Selector where
  criteria : Criteria := {}
  index : Option String := none
  anchors : Anchors Selector := {}
  descendants : List Selector := []
  deriving Inhabited

/-- A text that is set and not empty. -/
def givenText? (s : Option String) : Option String := s.filter fun t => !t.isEmpty

/-- A number that is set and not zero. -/
def givenSize? (n : Option Int) : Option Int := n.filter fun k => k != 0

namespace Criteria

/-- The difference in size that is allowed when none is set. -/
def usualTolerance : Int := 5

/-- The difference in size that is allowed. -/
def effectiveTolerance (c : Criteria) : Int := c.tolerance.getD usualTolerance

/-- A width or a height is asked for. -/
def hasSize (c : Criteria) : Bool := (givenSize? c.width).isSome || (givenSize? c.height).isSome

/-- A text, a name or a size is asked for. -/
def hasBase (c : Criteria) : Bool :=
  (givenText? c.text).isSome || (givenText? c.id).isSome || c.hasSize

/-- The text asked for, or else the name with a mark in front. -/
def describe (c : Criteria) : String :=
  match givenText? c.text, givenText? c.id with
  | some t, _ => t
  | none, some i => "#" ++ i
  | none, none => ""

/-- The text or name asked for, in quotes after the field it is for. -/
def describeQuoted (c : Criteria) : String :=
  match givenText? c.text, givenText? c.id with
  | some t, _ => "text=\"" ++ t ++ "\""
  | none, some i => "id=\"" ++ i ++ "\""
  | none, none => ""

end Criteria

namespace Anchors

variable {α : Type}

/-- The anchor of a relation. -/
def get (a : Anchors α) : Relation → Option α
  | .below => a.below
  | .above => a.above
  | .leftOf => a.leftOf
  | .rightOf => a.rightOf
  | .childOf => a.childOf
  | .containsChild => a.containsChild
  | .insideOf => a.insideOf

def set (a : Anchors α) (r : Relation) (anchor : α) : Anchors α :=
  match r with
  | .below => { a with below := some anchor }
  | .above => { a with above := some anchor }
  | .leftOf => { a with leftOf := some anchor }
  | .rightOf => { a with rightOf := some anchor }
  | .childOf => { a with childOf := some anchor }
  | .containsChild => { a with containsChild := some anchor }
  | .insideOf => { a with insideOf := some anchor }

end Anchors

namespace Selector

def anchor? (s : Selector) (r : Relation) : Option Selector := s.anchors.get r

def withAnchor (s : Selector) (r : Relation) (anchor : Selector) : Selector :=
  { s with anchors := s.anchors.set r anchor }

def relative? (s : Selector) : Option (Relation × Selector) :=
  Relation.all.findSome? fun r => (s.anchor? r).map fun a => (r, a)

/-- The element can only be found by looking at its surroundings. -/
def hasRelative (s : Selector) : Bool := s.relative?.isSome || !s.descendants.isEmpty

/-- The selector asks for nothing. -/
def isEmpty (s : Selector) : Bool := !s.criteria.hasBase && !s.hasRelative

/-- The selector without its anchors and descendants. -/
def base (s : Selector) : Selector := { criteria := s.criteria, index := s.index }

def ofText (t : String) : Selector := { criteria := { text := some t } }

mutual

/-- Equality of selectors. -/
def same : Selector → Selector → Bool
  | ⟨c, i, ⟨b1, b2, b3, b4, b5, b6, b7⟩, ds⟩, ⟨c', i', ⟨a1, a2, a3, a4, a5, a6, a7⟩, es⟩ =>
    c == c' && i == i' && sameAnchor b1 a1 && sameAnchor b2 a2 && sameAnchor b3 a3
      && sameAnchor b4 a4 && sameAnchor b5 a5 && sameAnchor b6 a6 && sameAnchor b7 a7
      && sameList ds es

def sameAnchor : Option Selector → Option Selector → Bool
  | none, none => true
  | some a, some b => same a b
  | _, _ => false

def sameList : List Selector → List Selector → Bool
  | [], [] => true
  | a :: as, b :: bs => same a b && sameList as bs
  | _, _ => false

end

instance : BEq Selector := ⟨same⟩

end Selector

end ElementFinder

import ElementFinder.Page.Node
import ElementFinder.Search.TextMatch
import ElementFinder.Selector.Basic

/-!
# Elements against conditions

Whether an element meets the conditions that a selector puts on it alone.
-/

namespace ElementFinder

/-- The numbers differ by no more than the tolerance. -/
def withinTolerance (actual expected tolerance : Int) : Bool :=
  (actual - expected).natAbs ≤ tolerance

/-- A size meets what is asked for. -/
def sizeMeets (asked : Option Int) (actual tolerance : Int) : Bool :=
  match givenSize? asked with
  | none => true
  | some n => withinTolerance actual n tolerance

/-- A state meets what is asked for. -/
def stateMeets (asked : Option Bool) (actual : Bool) : Bool :=
  match asked with
  | none => true
  | some b => actual == b

namespace Criteria

/-- One of the texts of an element matches the text asked for. -/
def textMeets (c : Criteria) (a : Attributes) : Except Failure Bool :=
  match givenText? c.text with
  | none => .ok true
  | some t => matchesText t a.texts

/-- The name of an element holds the name asked for. -/
def idMeets (c : Criteria) (a : Attributes) : Bool :=
  match givenText? c.id with
  | none => true
  | some i => Text.contains a.name i

/-- All conditions but the one on the text. -/
def restMeets (c : Criteria) (a : Attributes) : Bool :=
  c.idMeets a
    && sizeMeets c.width a.bounds.width c.effectiveTolerance
    && sizeMeets c.height a.bounds.height c.effectiveTolerance
    && stateMeets c.enabled a.enabled
    && stateMeets c.selected a.selected
    && stateMeets c.focused a.focused

/-- The element meets all conditions. -/
def matchesNode (c : Criteria) (n : Node) : Except Failure Bool := do
  return (← c.textMeets n.attributes) && c.restMeets n.attributes

/-- The nodes that meet all conditions, in their order. -/
def filterNodes (c : Criteria) : List Node → Except Failure (List Node)
  | [] => .ok []
  | n :: rest => do
    let here ← c.matchesNode n
    let more ← c.filterNodes rest
    return if here then n :: more else more

end Criteria

end ElementFinder

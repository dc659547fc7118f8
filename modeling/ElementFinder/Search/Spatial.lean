import ElementFinder.Search.Match

/-!
# Relations between rectangles

The candidates that lie to an anchor in a relation. For the four directions they are ordered by
their gap to the anchor, the closest first; candidates with the same gap keep their order.
-/

namespace ElementFinder

namespace Relation

/-- The gap between an element and an anchor in a direction: negative if the element reaches over
the edge of the anchor. The relations of containment have no gap. -/
def gap? : Relation → Option (Bounds → Bounds → Int)
  | below => some fun b anchor => b.y - anchor.bottom
  | above => some fun b anchor => anchor.y - b.bottom
  | leftOf => some fun b anchor => anchor.x - b.right
  | rightOf => some fun b anchor => b.x - anchor.right
  | childOf | containsChild | insideOf => none

/-- An element lies to an anchor in the relation. -/
def holds (r : Relation) (b anchor : Bounds) : Bool :=
  match r with
  | below => anchor.bottom ≤ b.y
  | above => b.bottom ≤ anchor.y
  | leftOf => b.right ≤ anchor.x
  | rightOf => anchor.right ≤ b.x
  | childOf => anchor.contains b
  | containsChild => b.contains anchor
  | insideOf => b.centerInside anchor

/-- The candidates that lie to an anchor in the relation, the closest first. -/
def apply (r : Relation) (candidates : List Node) (anchor : Node) : List Node :=
  let related := candidates.filter fun n => r.holds n.bounds anchor.bounds
  match r.gap? with
  | none => related
  | some gap =>
    related.mergeSort fun m n => gap m.bounds anchor.bounds ≤ gap n.bounds anchor.bounds

end Relation

/-- Some node inside the rectangle meets the conditions; the search ends at the first such node. -/
def hasDescendant (parent : Node) (c : Criteria) : List Node → Except Failure Bool
  | [] => .ok false
  | n :: rest =>
    if parent.bounds.contains n.bounds then do
      if ← c.matchesNode n then return true else hasDescendant parent c rest
    else hasDescendant parent c rest

/-- For each of the selectors some node inside the rectangle matches. -/
def hasDescendants (parent : Node) (pool : List Node) : List Selector → Except Failure Bool
  | [] => .ok true
  | d :: rest => do
    if ← hasDescendant parent d.criteria pool then hasDescendants parent pool rest
    else return false

/-- The candidates that have a descendant for each of the selectors. -/
def filterDescendants (pool : List Node) (descendants : List Selector) :
    List Node → Except Failure (List Node)
  | [] => .ok []
  | n :: rest => do
    let here ← hasDescendants n pool descendants
    let more ← filterDescendants pool descendants rest
    return if here then n :: more else more

end ElementFinder

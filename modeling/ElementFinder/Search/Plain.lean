import ElementFinder.Page.Snapshot
import ElementFinder.Search.Candidate
import ElementFinder.Search.Clickable
import ElementFinder.Search.Match
import ElementFinder.Selector.Basic

/-!
# Finding a node by its own properties

The node that a selector picks from a page by what the node itself says, without anchors and
descendants.
-/

namespace ElementFinder

/-- The node that a selector picks from a page, if any node meets its conditions. -/
def Selector.pickIn (s : Selector) (snapshot : Snapshot) : Except Failure (Option Node) := do
  let candidates ← s.criteria.filterNodes snapshot.nodes
  if candidates.isEmpty then return none else pick (clickableFirst candidates) s.index

end ElementFinder

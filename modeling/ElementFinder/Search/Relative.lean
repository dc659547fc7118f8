import ElementFinder.Search.Candidate
import ElementFinder.Search.Clickable
import ElementFinder.Search.Describe
import ElementFinder.Search.Spatial

/-!
# Finding an element by its surroundings

The search in one snapshot for a selector with an anchor or with descendants. The first anchor that
some candidate lies to counts.
-/

namespace ElementFinder

/-- The nodes that meet the conditions of a selector on the node alone. Without a text, a name or a
size all nodes are candidates. -/
def baseCandidates (s : Selector) (snapshot : Snapshot) : Except Failure (List Node) :=
  if s.criteria.hasBase then s.criteria.filterNodes snapshot.nodes else .ok snapshot.nodes

/-- The candidates related to the first anchor that has any. -/
def relatedToFirst (r : Relation) (candidates : List Node) : List Node → List Node
  | [] => []
  | anchor :: rest =>
    let related := r.apply candidates anchor
    if related.isEmpty then relatedToFirst r candidates rest else related

/-- The candidates that lie to an anchor in the active relation, if there is one. -/
def relatedCandidates (s : Selector) (snapshot : Snapshot) (candidates : List Node) :
    Except Failure (List Node) :=
  match s.relative? with
  | none => .ok candidates
  | some (r, anchor) => do
    let anchors ← anchor.criteria.filterNodes snapshot.nodes
    if anchors.isEmpty then throw (.anchorNotFound (← anchor.describe) r.name)
    return relatedToFirst r candidates anchors

/-- The node that a selector finds in a snapshot. -/
def Selector.resolveIn (s : Selector) (snapshot : Snapshot) : Except Failure Node := do
  let candidates ← baseCandidates s snapshot
  let candidates ← relatedCandidates s snapshot candidates
  let candidates ←
    if s.descendants.isEmpty then pure candidates
    else filterDescendants snapshot.nodes s.descendants candidates
  let chosen ←
    if candidates.isEmpty then pure none else pick (clickableFirst candidates) s.index
  match chosen with
  | some n => return n
  | none => throw (.noMatch (← s.describe) none)

end ElementFinder

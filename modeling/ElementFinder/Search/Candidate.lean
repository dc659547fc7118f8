import ElementFinder.Failure
import ElementFinder.Page.Node

/-!
# Choosing a candidate

One node out of several matches: the deepest one, or the one at a given position.
-/

namespace ElementFinder

/-- The deeper of two nodes, the first one if they are equally deep. -/
def deeper (best n : Node) : Node := if best.depth < n.depth then n else best

/-- The node with the greatest depth, the first one of several. -/
def deepest? : List Node → Option Node
  | [] => none
  | n :: rest => some (rest.foldl deeper n)

/-- The position that an index stands for among a number of candidates. A negative index counts from
the end; an index that is no number or lies outside stands for the first position. -/
def positionOf (index : String) (count : Nat) : Nat :=
  match Numeral.read? index with
  | none => 0
  | some i =>
    let j := if i < 0 then count + i else i
    if 0 ≤ j ∧ j < count then j.toNat else 0

/-- The candidate at the position of the index, or the deepest one if there is no index. -/
def pick (candidates : List Node) (index : Option String) : Except Failure (Option Node) :=
  match index.filter fun s => !s.isEmpty with
  | none => .ok (deepest? candidates)
  | some s =>
    match candidates[positionOf s candidates.length]? with
    | some n => .ok (some n)
    | none => .error .outOfRange

end ElementFinder

/-!
# Relations

How an element lies to another one.
-/

namespace ElementFinder

/-- A relation between a candidate and an anchor. -/
inductive Relation where
  | below
  | above
  | leftOf
  | rightOf
  | childOf
  | containsChild
  | insideOf
  deriving DecidableEq, Repr

namespace Relation

/-- The relations in order of priority. -/
def all : List Relation := [below, above, leftOf, rightOf, childOf, containsChild, insideOf]

def name : Relation → String
  | below => "below"
  | above => "above"
  | leftOf => "leftOf"
  | rightOf => "rightOf"
  | childOf => "childOf"
  | containsChild => "containsChild"
  | insideOf => "insideOf"

def ofName? (s : String) : Option Relation := all.find? fun r => r.name == s

end Relation

end ElementFinder

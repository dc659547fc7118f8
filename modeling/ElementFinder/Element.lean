import ElementFinder.Page.Bounds

/-!
# Found elements

What a search returns: the element as it was seen, and how it was found.
-/

namespace ElementFinder

/-- How an element was found: the wanted selector, the way, and the query if one answered. -/
structure Origin where
  selector : String := ""
  strategy : String := ""
  locator : Option String := none
  deriving DecidableEq, Repr

/-- A found element. It has a handle if a server query found it, and none if a page did. -/
structure Element where
  text : String := ""
  bounds : Bounds := {}
  enabled : Bool := true
  visible : Bool := false
  handle : Option String := none
  origin : Origin := {}
  deriving DecidableEq, Repr

/-- Two elements are the same, however they were found. -/
def Element.same (a b : Element) : Bool :=
  decide ({ a with origin := {} } = { b with origin := {} })

end ElementFinder

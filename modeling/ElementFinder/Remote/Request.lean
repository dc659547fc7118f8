import ElementFinder.Page.Bounds

/-!
# Requests to a server

What a server can be asked: for an element by a query, for three properties of an element that it
found, and for the source of the page. Each request has its own type of answer.
-/

namespace ElementFinder

/-- A request to a server. -/
inductive Request where
  | find (method value : String)
  | text (handle : String)
  | rect (handle : String)
  | displayed (handle : String)
  | source
  deriving DecidableEq, Repr

namespace Request

/-- What the answer to a request is: a handle, a text, a rectangle, a truth value or a source. -/
abbrev Answer : Request → Type
  | .find _ _ => String
  | .text _ => String
  | .rect _ => Bounds
  | .displayed _ => Bool
  | .source => String

/-- The request asks for an element or a page, and not for a property of a found element. -/
def isSearch : Request → Bool
  | .find _ _ | .source => true
  | .text _ | .rect _ | .displayed _ => false

end Request

end ElementFinder

import ElementFinder.Failure

/-!
# Faults of selector data

What is wrong with data that is meant as a selector, and where.
-/

namespace ElementFinder

/-- What is wrong with selector data. -/
inductive SelectorFault where
  | notSelector (kind : String)
  | unknownKey (key : String)
  | notList
  | notInteger (shown : String)
  | notBool (shown : String)
  deriving DecidableEq, Repr

/-- The keys of selector data in alphabetical order. -/
def selectorKeys : List String :=
  ["above", "below", "childOf", "containsChild", "containsDescendants", "enabled", "focused",
    "height", "id", "index", "insideOf", "leftOf", "rightOf", "selected", "text", "tolerance",
    "width"]

def textAlias : String := "element"

def SelectorFault.words : SelectorFault → String
  | .notSelector kind => "selector must be a string or mapping, got " ++ kind
  | .unknownKey key =>
    "unknown selector key \x27" ++ key ++ "\x27. Allowed: ["
      ++ Text.joined ", " ((selectorKeys ++ [textAlias]).map Text.quoted) ++ "]"
  | .notList => "must be a list of selectors"
  | .notInteger shown => "expected an integer, got " ++ shown
  | .notBool shown => "expected true/false, got " ++ shown

def SelectorFault.failure (f : SelectorFault) (place : String) : Failure :=
  .config (place ++ ": " ++ f.words)

end ElementFinder

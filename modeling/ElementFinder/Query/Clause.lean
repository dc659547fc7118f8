import ElementFinder.Query.Literal

/-!
# Clauses of queries

A query is a conjunction of clauses about one element: its type, its texts and its states.
-/

namespace ElementFinder

/-- How an attribute is compared with a text; the folded kinds ignore letter case. -/
inductive Comparison where
  | equal
  | equalFolded
  | contains
  | containsFolded
  deriving DecidableEq, Repr

def Comparison.operator : Comparison → String
  | .equal => "=="
  | .equalFolded => "==[c]"
  | .contains => "CONTAINS"
  | .containsFolded => "CONTAINS[c]"

/-- One condition on an element. -/
inductive Clause where
  | typeIs (type : String)
  | nameContains (part : String)
  | anyOf (attributes : List String) (comparison : Comparison) (text : String)
  | state (name : String) (value : Bool)
  deriving DecidableEq, Repr

namespace Clause

def compare (name : String) (c : Comparison) (text : String) : String :=
  name ++ " " ++ c.operator ++ " " ++ Query.literal text

def write : Clause → String
  | .typeIs type => "type == " ++ Query.literal type
  | .nameContains part => compare "name" .contains part
  | .anyOf attributes c text =>
    "(" ++ Text.joined " OR " (attributes.map fun a => compare a c text) ++ ")"
  | .state name value => name ++ " == " ++ (if value then "true" else "false")

def writeRest (clauses : List Clause) : String :=
  String.join (clauses.map fun c => " AND " ++ c.write)

/-- The conjunction of a clause and those behind it. -/
def writeAll (first : Clause) (rest : List Clause) : String :=
  first.write ++ writeRest rest

end Clause

end ElementFinder

import ElementFinder.Number.Numeral

/-!
# What can be wrong with a JSON document

A document breaks the rules at a place, holds an integer that is too long, or is nested too deeply.
-/

namespace ElementFinder.Json

/-- Why the text at a place breaks the rules. -/
inductive Problem where
  | value
  | name
  | colon
  | comma
  | extra
  | openText
  | control
  | escape
  | code
  deriving DecidableEq, Repr

/-- The words for a problem. -/
def Problem.message : Problem → String
  | .value => "Expecting value"
  | .name => "Expecting property name enclosed in double quotes"
  | .colon => "Expecting \x27:\x27 delimiter"
  | .comma => "Expecting \x27,\x27 delimiter"
  | .extra => "Extra data"
  | .openText => "Unterminated string starting at"
  | .control => "Invalid control character at"
  | .escape => "Invalid \\escape"
  | .code => "Invalid \\uXXXX escape"

/-- Why a text is no document. -/
inductive Fault where
  | malformed (problem : Problem) (place : Nat)
  | numeral (fault : NumeralFault)
  | tooDeep
  deriving DecidableEq, Repr

/-- A place in a text as people count it: the line and the column, both from one. -/
def lineAndColumn (cs : List Char) (place : Nat) : Nat × Nat :=
  let before := cs.take place
  (before.count '\n' + 1, (before.reverse.takeWhile (· != '\n')).length + 1)

/-- The words for a fault in a text. -/
def Fault.message (cs : List Char) : Fault → String
  | .malformed problem place =>
    let (line, column) := lineAndColumn cs place
    problem.message ++ ": line " ++ toString line ++ " column " ++ toString column ++ " (char "
      ++ toString place ++ ")"
  | .numeral fault => fault.message
  | .tooDeep => "maximum recursion depth exceeded while decoding a JSON document"

end ElementFinder.Json

import ElementFinder.Text.Search

/-!
# Literals in queries

A text literal of the query language stands between apostrophes. A backslash keeps the character
after it from ending the literal; both the apostrophe and the backslash are written behind one.
-/

namespace ElementFinder.Query

def literalMark : Char := '\x27'

/-- The characters between the marks: an apostrophe or a backslash stands behind a backslash. -/
def escaped : List Char → List Char
  | [] => []
  | c :: rest => if c = '\\' ∨ c = literalMark then '\\' :: c :: escaped rest else c :: escaped rest

def literal (text : String) : String :=
  String.ofList (literalMark :: escaped text.toList ++ [literalMark])

end ElementFinder.Query

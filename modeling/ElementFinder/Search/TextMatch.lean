import ElementFinder.Failure
import ElementFinder.Pattern.Search
import ElementFinder.Text.Search

/-!
# Text matching

A text asked for is either part of another text, letter case aside, or a pattern to search for. It
counts as a pattern if it holds a sign that only patterns use; one that cannot be read as a pattern
counts as plain text after all.
-/

namespace ElementFinder

/-- A sign that makes a text a pattern wherever it stands. -/
def isPatternSign (c : Char) : Bool :=
  c == '*' || c == '+' || c == '?' || c == '[' || c == ']' || c == '\x7b' || c == '\x7d'
    || c == '|' || c == '(' || c == ')'

/-- A sign that repeats what stands before it. -/
def isTurnsSign (c : Char) : Bool := c == '*' || c == '+' || c == '?'

/-- The character makes a text a pattern where it stands: a point before a repetition, a caret in
front, a dollar sign at the end. -/
def marksPattern (first : Bool) (c : Char) (rest : List Char) : Bool :=
  if c = '.' then rest.head?.any isTurnsSign
  else if c = '^' then first
  else if c = '$' then rest.isEmpty
  else isPatternSign c

/-- A character that no backslash stands before makes the text a pattern. -/
def hasPatternMark (before : Option Char) : List Char → Bool
  | [] => false
  | c :: rest =>
    (before != some '\\' && marksPattern before.isNone c rest) || hasPatternMark (some c) rest

/-- The text is meant as a pattern. -/
def looksLikePattern (text : String) : Bool := hasPatternMark none text.toList

/-- A test for texts. -/
inductive TextTest where
  | plain (text : String)
  | pattern (text : String) (program : Pattern.Program)

namespace TextTest

/-- The test that a text asks for. -/
def ofText (text : String) : Except Failure TextTest :=
  if looksLikePattern text then
    match Pattern.read { ignoreCase := true } text with
    | .ok program => .ok (.pattern text program)
    | .error .malformed => .ok (.plain text)
    | .error .tooManyTurns => .error .overflow
    | .error (.countNumeral fault) => .error (.numeral fault)
    | .error .twoClassChoices => .error (.value "ASCII and UNICODE flags are incompatible")
  else .ok (.plain text)

/-- The text contains the other one, letter case aside. -/
def containsAnyCase (text part : String) : Bool :=
  Text.contains (Text.lower text) (Text.lower part)

/-- The text with a space in place of every line feed. -/
def onOneLine (text : String) : String :=
  String.ofList (Text.replaceChar '\n' [' '] text.toList)

/-- One text passes the test. A pattern is not searched for in an empty text. -/
def accepts : TextTest → String → Bool
  | .plain part, t => containsAnyCase t part
  | .pattern text program, t =>
    !t.isEmpty && (program.search t || program.search (onOneLine t) || t == text)

end TextTest

/-- One of the texts matches the text asked for. -/
def matchesText (asked : String) (texts : List String) : Except Failure Bool := do
  return texts.any (← TextTest.ofText asked).accepts

end ElementFinder

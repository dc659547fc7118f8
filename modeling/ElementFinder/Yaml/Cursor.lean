import ElementFinder.Failure

/-!
# Places in a YAML text

The text that is still to be read, with the line and the column where it begins. Lines end at a line
feed, a carriage return or both, and at three more separators.
-/

namespace ElementFinder.Yaml

/-- Why a text is no document: it breaks the rules of the format, or a value in it does not exist. -/
inductive Fault where
  | malformed (reason : String)
  | value (failure : Failure)

/-- A text that breaks the rules. -/
def malformed {α : Type} (reason : String) : Except Fault α := .error (.malformed reason)

/-- The line and the paragraph separator, which stay as they are when lines are joined. -/
def isSeparator (c : Char) : Bool := c.toNat == 0x2028 || c.toNat == 0x2029

/-- A character that ends a line. -/
def isBreak (c : Char) : Bool := c == '\n' || c == '\r' || c.toNat == 0x85 || isSeparator c

/-- A space or a tab. -/
def isBlank (c : Char) : Bool := c == ' ' || c == '\t'

/-- A line ends here: with a break or with the text. -/
def endsLine : Option Char → Bool
  | none => true
  | some c => isBreak c

/-- A word ends here if only spaces part words. -/
def endsField : Option Char → Bool
  | none => true
  | some c => c == ' ' || isBreak c

def endsWord : Option Char → Bool
  | none => true
  | some c => isBlank c || isBreak c

/-- The mark of the byte order, which takes no column. -/
def byteOrderMark : Char := '\uFEFF'

/-- A place in a text. -/
structure Cursor where
  rest : List Char
  index : Nat := 0
  line : Nat := 0
  column : Nat := 0

namespace Cursor

/-- The next character. -/
def peek (c : Cursor) : Option Char := c.rest.head?

/-- The character after a number of others. -/
def peekAt (c : Cursor) (n : Nat) : Option Char := c.rest[n]?

/-- The next character is the given one. -/
def startsWith (c : Cursor) (x : Char) : Bool := c.peek == some x

/-- The place after the next character. -/
def step (c : Cursor) : Cursor :=
  match c.rest with
  | [] => c
  | x :: more =>
    if x == '\r' && more.head? == some '\n' then
      { rest := more, index := c.index + 1, line := c.line, column := c.column + 1 }
    else if isBreak x then { rest := more, index := c.index + 1, line := c.line + 1, column := 0 }
    else
      { rest := more, index := c.index + 1, line := c.line
        column := if x = byteOrderMark then c.column else c.column + 1 }

/-- The place after a number of characters. -/
def skip (c : Cursor) : Nat → Cursor
  | 0 => c
  | n + 1 => c.step.skip n

/-- The next characters that satisfy a condition. -/
def run (c : Cursor) (p : Char → Bool) : List Char := c.rest.takeWhile p

/-- The place after the next characters that satisfy a condition. -/
def skipWhile (c : Cursor) (p : Char → Bool) : Cursor := c.skip (c.run p).length

def skipSpaces (c : Cursor) : Cursor := c.skipWhile (· == ' ')

/-- The place after a comment, if one begins here. -/
def skipComment (c : Cursor) : Cursor :=
  if c.startsWith '#' then c.skipWhile (!isBreak ·) else c

/-- The line break that begins here, in its plain form, and the place after it. -/
def lineBreak? (c : Cursor) : Option (Char × Cursor) :=
  match c.rest with
  | '\r' :: '\n' :: _ => some ('\n', c.skip 2)
  | x :: _ => if isBreak x then some (if isSeparator x then x else '\n', c.step) else none
  | [] => none

/-- The place after a line break, if one begins here. -/
def skipBreak (c : Cursor) : Cursor := (c.lineBreak?.map (·.2)).getD c

/-- Three equal marks stand here as a word. -/
def atMarks (c : Cursor) (mark : Char) : Bool :=
  match c.rest with
  | x :: y :: z :: more => x == mark && y == mark && z == mark && endsWord more.head?
  | _ => false

/-- The start or the end of a document is marked here. -/
def atDocumentMark (c : Cursor) : Bool := c.atMarks '-' || c.atMarks '.'

end Cursor

/-- What was read, and the place behind it. -/
abbrev Scan (α : Type) := Except Fault (α × Cursor)

end ElementFinder.Yaml

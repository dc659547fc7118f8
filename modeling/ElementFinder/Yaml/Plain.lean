import ElementFinder.Yaml.Cursor

/-!
# Plain and block texts in YAML

A plain text has no marks around it. It ends before a colon with a blank behind it, before a comment,
at a line with too little indentation, and inside brackets also before what divides the items. A
block text begins on the line after its mark and has the lines that are indented.
-/

namespace ElementFinder.Yaml

/-- A character that divides items inside brackets. -/
def isFlowMark (c : Char) : Bool := c == ',' || c == '[' || c == ']' || c == '\x7b' || c == '\x7d'

/-- A plain text goes on with the character, seen with the one behind it. -/
def continuesPlain (flow : Bool) (x : Char) (next : Option Char) : Bool :=
  !isBlank x && !isBreak x
    && !(x == ':' && (endsWord next || flow && (next.map isFlowMark).getD false))
    && !(flow && (isFlowMark x || x == '?'))

/-- The number of characters with which a plain text goes on. -/
def plainLength (flow : Bool) (n : Nat) : List Char → Nat
  | [] => n
  | x :: rest => if continuesPlain flow x rest.head? then plainLength flow (n + 1) rest else n

/-- The end of a word in a plain text: what a gap stands for, if the text can go on behind it, whether
it holds a line break, and the place behind it. -/
structure PlainGap where
  chars : Option (List Char)
  broken : Bool
  cursor : Cursor

/-- The lines without content after a line break in a plain text; none at a document mark. -/
def plainBreaks : Nat → List Char → Cursor → Option (List Char) × Cursor
  | 0, acc, c => (some acc.reverse, c)
  | fuel + 1, acc, c =>
    if c.startsWith ' ' then plainBreaks fuel acc c.step
    else match c.lineBreak? with
      | none => (some acc.reverse, c)
      | some (b, c) => if c.atDocumentMark then (none, c) else plainBreaks fuel (b :: acc) c

def plainGap (c : Cursor) : PlainGap :=
  let spaces := c.run (· == ' ')
  let c := c.skipSpaces
  match c.lineBreak? with
  | none => ⟨some spaces, false, c⟩
  | some (b, c) =>
    if c.atDocumentMark then ⟨none, true, c⟩
    else
      let (more, c) := plainBreaks (c.rest.length + 1) [] c
      ⟨more.map fun bs => if b ≠ '\n' then b :: bs else if bs.isEmpty then [' '] else bs, true, c⟩

/-- The rest of a plain text, after the characters read before and a gap; the flag of the result
tells if the last gap held a line break. -/
def plainRest (flow : Bool) (indent : Int) :
    Nat → List Char → List Char → Bool → Cursor → (String × Bool) × Cursor
  | 0, acc, _, broken, c => ((String.ofList acc.reverse, broken), c)
  | fuel + 1, acc, gap, broken, c =>
    let size := plainLength flow 0 c.rest
    if c.startsWith '#' || size = 0 then ((String.ofList acc.reverse, broken), c)
    else
      let acc := (c.rest.take size).reverse ++ (gap.reverse ++ acc)
      let next := plainGap (c.skip size)
      let stops := next.cursor.startsWith '#' || (!flow && decide ((next.cursor.column : Int) < indent))
      match next.chars with
      | none | some [] => ((String.ofList acc.reverse, next.broken), next.cursor)
      | some gap =>
        if stops then ((String.ofList acc.reverse, next.broken), next.cursor)
        else plainRest flow indent fuel acc gap next.broken next.cursor

/-- A plain text whose further lines have at least the given indentation. -/
def plainText (flow : Bool) (indent : Int) (c : Cursor) : (String × Bool) × Cursor :=
  plainRest flow indent (c.rest.length + 1) [] [] false c

/-- What becomes of the line breaks at the end of a block text. -/
inductive Chomping where
  | strip
  | clip
  | keep
  deriving DecidableEq

def chompingOf? (c : Option Char) : Option Chomping :=
  match c with
  | some '+' => some .keep
  | some '-' => some .strip
  | _ => none

def indentDigit (c : Cursor) : Except Fault (Option Nat × Cursor) :=
  match c.peek with
  | some x =>
    if x == '0' then malformed "expected indentation indicator in the range 1-9"
    else if x.isDigit then .ok (some (x.toNat - 48), c.step)
    else .ok (none, c)
  | none => .ok (none, c)

/-- The two signs after the mark of a block text, in either order. -/
def blockHeader (c : Cursor) : Except Fault ((Chomping × Option Nat) × Cursor) := do
  let (signs, c) ← match chompingOf? c.peek with
    | some chomping => do
      let (digit, c) ← indentDigit c.step
      pure ((chomping, digit), c)
    | none => do
      let (digit, c) ← indentDigit c
      match digit.bind fun _ => chompingOf? c.peek with
      | some chomping => pure ((chomping, digit), c.step)
      | none => pure ((Chomping.clip, digit), c)
  if endsField c.peek then return (signs, c)
  else malformed "expected chomping or indentation indicators"

/-- The rest of the line with the mark: spaces and a comment only. -/
def restOfLine (c : Cursor) : Except Fault Cursor :=
  let c := c.skipSpaces.skipComment
  if endsLine c.peek then .ok c.skipBreak else malformed "expected a comment or a line break"

/-- The place after at most so many columns of spaces. -/
def skipIndent (indent : Nat) : Nat → Cursor → Cursor
  | 0, c => c
  | fuel + 1, c =>
    if c.column < indent && c.startsWith ' ' then skipIndent indent fuel c.step else c

/-- The lines without content before a line with the given indentation. -/
def blockBreaks (indent : Nat) : Nat → List Char → Cursor → List Char × Cursor
  | 0, acc, c => (acc.reverse, c)
  | fuel + 1, acc, c =>
    let c := skipIndent indent c.rest.length c
    match c.lineBreak? with
    | some (b, c) => blockBreaks indent fuel (b :: acc) c
    | none => (acc.reverse, c)

/-- The lines without content before the first line, and the greatest column that they reach. -/
def blockIndent : Nat → List Char → Nat → Cursor → (List Char × Nat) × Cursor
  | 0, acc, greatest, c => ((acc.reverse, greatest), c)
  | fuel + 1, acc, greatest, c =>
    if c.startsWith ' ' then blockIndent fuel acc (max greatest c.step.column) c.step
    else match c.lineBreak? with
      | some (b, c) => blockIndent fuel (b :: acc) greatest c
      | none => ((acc.reverse, greatest), c)

/-- The end of a block text: its last line break and the empty lines behind it. -/
structure BlockEnd where
  lastBreak : List Char
  breaks : List Char

/-- The lines of a block text; in a folded one a break between two lines becomes a space, unless one
of the lines begins with a blank. -/
def blockLines (folded : Bool) (indent : Nat) :
    Nat → List Char → List Char → List Char → Cursor → (List Char × BlockEnd) × Cursor
  | 0, acc, lastBreak, breaks, c => ((acc, ⟨lastBreak, breaks⟩), c)
  | fuel + 1, acc, lastBreak, breaks, c =>
    if c.column ≠ indent ∨ c.peek.isNone then ((acc, ⟨lastBreak, breaks⟩), c)
    else
      let startsBlank := (c.peek.map isBlank).getD false
      let line := c.run (!isBreak ·)
      let acc := line.reverse ++ (breaks.reverse ++ acc)
      let c := c.skip line.length
      let lastBreak := (c.lineBreak?.map (·.1)).toList
      let c := c.skipBreak
      let (breaks, c) := blockBreaks indent (c.rest.length + 1) [] c
      if c.column ≠ indent ∨ c.peek.isNone then ((acc, ⟨lastBreak, breaks⟩), c)
      else
        let nextBlank := (c.peek.map isBlank).getD false
        let joint :=
          if folded && lastBreak == ['\n'] && !startsBlank && !nextBlank then
            if breaks.isEmpty then [' '] else []
          else lastBreak
        blockLines folded indent fuel (joint ++ acc) lastBreak breaks c

/-- A block text inside a collection with the given indentation, from its mark. -/
def blockText (folded : Bool) (outer : Int) (c : Cursor) :
    Except Fault (String × Cursor) := do
  let ((chomping, digit), c) ← blockHeader c.step
  let c ← restOfLine c
  let least := (max (outer + 1) 1).toNat
  let fuel := c.rest.length + 1
  let ((indent, breaks), c) := match digit with
    | none =>
      let ((breaks, greatest), c) := blockIndent fuel [] 0 c
      ((max least greatest, breaks), c)
    | some d =>
      let indent := least + d - 1
      let (breaks, c) := blockBreaks indent fuel [] c
      ((indent, breaks), c)
  let ((acc, tail), c) := blockLines folded indent fuel [] [] breaks c
  let ending := match chomping with
    | .strip => []
    | .clip => tail.lastBreak
    | .keep => tail.lastBreak ++ tail.breaks
  return (String.ofList (acc.reverse ++ ending), c)

end ElementFinder.Yaml

import ElementFinder.Text.Utf8
import ElementFinder.Yaml.Plain

/-!
# Names, tags and directives in YAML

What can stand before a node, a name to refer to it by and a tag for its kind, and what can stand
before a document.
-/

namespace ElementFinder.Yaml

/-- A tag as it is written: in full, or a handle that stands for a beginning, and the rest. -/
structure WrittenTag where
  handle : Option String
  suffix : String
  deriving DecidableEq, Repr

/-- A directive before a document: the version of the format, a handle for tags, or another one. -/
inductive Directive where
  | version (major minor : Int)
  | handle (name start : String)
  | other
  deriving DecidableEq, Repr

def isNameChar (c : Char) : Bool := c.isAlphanum || c == '-' || c == '_'

def isTagChar (c : Char) : Bool :=
  c.isAlphanum || "-;/?:@&=+$,_.!~*\x27()[]%".toList.contains c

/-- A name, at least one character long. -/
def readName (c : Cursor) : Scan String :=
  let cs := c.run isNameChar
  if cs.isEmpty then malformed "expected alphabetic or numeric character"
  else .ok (String.ofList cs, c.skip cs.length)

/-- A character that can follow the name of a node. -/
def endsAnchor (c : Option Char) : Bool :=
  endsWord c || (c.map fun x => "?:,]\x7d%@\x60".toList.contains x).getD true

/-- The name that a node gets or refers to, after its mark. -/
def anchorName (c : Cursor) : Scan String :=
  match readName c with
  | .error e => .error e
  | .ok (n, c) =>
    if endsAnchor c.peek then .ok (n, c) else malformed "expected alphabetic or numeric character"

def escapedBytes : Nat → List UInt8 → Cursor → Scan (List UInt8)
  | 0, acc, c => .ok (acc.reverse, c)
  | fuel + 1, acc, c =>
    if c.startsWith '%' then
      match c.rest with
      | _ :: x :: y :: _ =>
        match Text.numeral? 16 [x, y] with
        | some n => escapedBytes fuel (n.toUInt8 :: acc) (c.skip 3)
        | none => malformed "expected URI escape sequence of 2 hexadecimal numbers"
      | _ => malformed "expected URI escape sequence of 2 hexadecimal numbers"
    else .ok (acc.reverse, c)

/-- The body of a tag, with its escapes read as bytes of characters. -/
def tagBody : Nat → List Char → Cursor → Scan (List Char)
  | 0, acc, c => .ok (acc.reverse, c)
  | fuel + 1, acc, c =>
    match c.peek with
    | none => .ok (acc.reverse, c)
    | some x =>
      if x == '%' then
        match escapedBytes (c.rest.length + 1) [] c with
        | .error e => .error e
        | .ok (bs, c) =>
          match Utf8.decode bs with
          | .ok cs => tagBody fuel (cs.reverse ++ acc) c
          | .error f => malformed f.message
      else if isTagChar x then tagBody fuel (x :: acc) c.step
      else .ok (acc.reverse, c)

/-- The body of a tag, at least one character or escape long. -/
def tagText (c : Cursor) : Scan String :=
  match tagBody (c.rest.length + 1) [] c with
  | .error e => .error e
  | .ok (cs, d) =>
    if d.index = c.index then malformed "expected URI" else .ok (String.ofList cs, d)

/-- A handle: an exclamation mark, or a name between two of them. -/
def tagHandle (c : Cursor) : Scan String :=
  match c.rest with
  | '!' :: rest =>
    let cs := rest.takeWhile isNameChar
    if rest.head? == some ' ' then .ok ("!", c.step)
    else match rest.drop cs.length with
      | '!' :: _ => .ok (String.ofList ('!' :: cs ++ ['!']), c.skip (cs.length + 2))
      | _ => malformed "expected \x27!\x27"
  | _ => malformed "expected \x27!\x27"

/-- A second exclamation mark stands in the word. -/
def hasSecondMark (cs : List Char) : Bool :=
  (cs.takeWhile fun x => !endsField (some x)).contains '!'

/-- The parts of a tag, from its exclamation mark. -/
def tagParts (c : Cursor) : Except Fault (WrittenTag × Cursor) := do
  if c.peekAt 1 == some '<' then
    let (suffix, c) ← tagText (c.skip 2)
    if c.startsWith '>' then return (⟨none, suffix⟩, c.step) else malformed "expected \x27>\x27"
  else if endsWord (c.peekAt 1) then return (⟨none, "!"⟩, c.step)
  else
    let (handle, c) ← if hasSecondMark (c.rest.drop 1) then tagHandle c else pure ("!", c.step)
    let (suffix, c) ← tagText c
    return (⟨some handle, suffix⟩, c)

/-- A tag, from its exclamation mark. -/
def readTag (c : Cursor) : Scan WrittenTag :=
  match tagParts c with
  | .error e => .error e
  | .ok (t, c) => if endsField c.peek then .ok (t, c) else malformed "expected \x27 \x27"

def versionNumber (c : Cursor) : Scan Int :=
  let cs := c.run Char.isDigit
  if cs.isEmpty then malformed "expected a digit"
  else match Numeral.read 10 (String.ofList cs) with
    | .ok n => .ok (n, c.skip cs.length)
    | .error f => .error (.value (.numeral f))

/-- The version of the format, after the word for it. -/
def versionDirective (c : Cursor) : Except Fault (Directive × Cursor) := do
  let (major, c) ← versionNumber c.skipSpaces
  if !c.startsWith '.' then malformed "expected a digit or \x27.\x27"
  else
    let (minor, c) ← versionNumber c.step
    if endsField c.peek then return (.version major minor, c)
    else malformed "expected a digit or \x27 \x27"

/-- A handle for tags, after the word for it. -/
def handleDirective (c : Cursor) : Except Fault (Directive × Cursor) := do
  let (handle, c) ← tagHandle c.skipSpaces
  if !c.startsWith ' ' then malformed "expected \x27 \x27"
  else
    let (start, c) ← tagText c.skipSpaces
    if endsField c.peek then return (.handle handle start, c) else malformed "expected \x27 \x27"

/-- A directive, from its percent sign to the end of its line. -/
def readDirective (c : Cursor) : Except Fault (Directive × Cursor) := do
  let (word, c) ← readName c.step
  if !endsField c.peek then malformed "expected alphabetic or numeric character"
  else
    let (d, c) ← match word with
      | "YAML" => versionDirective c
      | "TAG" => handleDirective c
      | _ => pure (.other, c.skipWhile (!isBreak ·))
    return (d, ← restOfLine c)

end ElementFinder.Yaml

import ElementFinder.Yaml.Property
import ElementFinder.Yaml.Quoted

/-!
# Tokens of a YAML text

Indentation becomes tokens for the start and the end of a block, and a text that turns out to be a
key, because a colon follows it on its line, gets a token in front of it.
-/

namespace ElementFinder.Yaml

/-- A token. -/
inductive Token where
  | streamEnd
  | directive (d : Directive)
  | documentStart
  | documentEnd
  | blockSequence
  | blockMapping
  | blockEnd
  | flowSequence
  | flowSequenceEnd
  | flowMapping
  | flowMappingEnd
  | blockEntry
  | flowEntry
  | key
  | value
  | alias (name : String)
  | anchor (name : String)
  | tag (t : WrittenTag)
  | scalar (text : String) (plain : Bool)
  deriving DecidableEq, Repr

/-- A place where a key may have begun, with the number of the token that it would begin with. -/
structure KeyPlace where
  token : Nat
  required : Bool
  index : Nat
  line : Nat
  column : Nat

/-- A text that is being cut into tokens: the tokens so far, the depth of brackets, the columns of
the open blocks, innermost first, and the places of possible keys by their depth. -/
structure Scanner where
  cursor : Cursor
  tokens : List Token := []
  depth : Int := 0
  indents : List Int := []
  keyAllowed : Bool := true
  keyPlaces : List (Int × KeyPlace) := []
  done : Bool := false

namespace Scanner

/-- The place is outside all brackets. -/
def isBlock (s : Scanner) : Bool := s.depth == 0

/-- The column of the innermost block; before the first one if there is none. -/
def indent (s : Scanner) : Int := s.indents.headD (-1)

/-- Adds a token. -/
def emit (s : Scanner) (t : Token) : Scanner := { s with tokens := s.tokens ++ [t] }

/-- Puts a token before the one with a number. -/
def insertAt (s : Scanner) (n : Nat) (t : Token) : Scanner :=
  { s with tokens := s.tokens.take n ++ t :: s.tokens.drop n }

/-- Moves on. -/
def moveTo (s : Scanner) (c : Cursor) : Scanner := { s with cursor := c }

/-- Adds a token of a number of characters and moves behind it. -/
def take (s : Scanner) (t : Token) (size : Nat) : Scanner :=
  (s.emit t).moveTo (s.cursor.skip size)

/-- Allows or forbids a key at the next token. -/
def allowKey (s : Scanner) (allowed : Bool) : Scanner := { s with keyAllowed := allowed }

/-- The place of a key has been left without a colon: on another line, or too far on. -/
def isStale (s : Scanner) (k : KeyPlace) : Bool :=
  k.line != s.cursor.line || 1024 < s.cursor.index - k.index

/-- Forgets the places that have been left; a place where a key had to be may not be among them. -/
def dropStale (s : Scanner) : Except Fault Scanner :=
  if s.keyPlaces.any fun k => s.isStale k.2 && k.2.required then
    malformed "could not find expected \x27:\x27"
  else .ok { s with keyPlaces := s.keyPlaces.filter fun k => !s.isStale k.2 }

def keyPlace? (s : Scanner) : Option KeyPlace :=
  (s.keyPlaces.find? (·.1 == s.depth)).map (·.2)

/-- The state without the place at this depth. -/
def forgetKey (s : Scanner) : Scanner :=
  { s with keyPlaces := s.keyPlaces.filter (·.1 != s.depth) }

/-- Gives up the place at this depth, unless a key had to be there. -/
def dropKey (s : Scanner) : Except Fault Scanner :=
  if (s.keyPlace?.map (·.required)).getD false then malformed "could not find expected \x27:\x27"
  else .ok s.forgetKey

/-- Remembers that a key may begin here, if one is allowed. -/
def saveKey (s : Scanner) : Except Fault Scanner :=
  if !s.keyAllowed then .ok s
  else match s.dropKey with
    | .error e => .error e
    | .ok s =>
      let c := s.cursor
      .ok { s with keyPlaces := s.keyPlaces ++ [(s.depth,
        { token := s.tokens.length, required := s.isBlock && s.indent == c.column
          index := c.index, line := c.line, column := c.column })] }

/-- The open blocks with columns beyond the given one, and the others. -/
def unwindTo (column : Int) : List Int → List Token → List Token × List Int
  | [], acc => (acc, [])
  | i :: rest, acc =>
    if column < i then unwindTo column rest (.blockEnd :: acc) else (acc, i :: rest)

/-- Ends the blocks that begin beyond a column; inside brackets columns do not count. -/
def unwind (s : Scanner) (column : Int) : Scanner :=
  if !s.isBlock then s
  else
    let (ends, indents) := unwindTo column s.indents []
    { s with tokens := s.tokens ++ ends, indents }

/-- Begins a block at a column, if it is beyond the innermost one; its token gets the number. -/
def beginBlock (s : Scanner) (column : Int) (number : Nat) (t : Token) : Scanner :=
  if s.indent < column then { s.insertAt number t with indents := column :: s.indents } else s

/-- Skips spaces, comments and line breaks. -/
def skipGaps : Nat → Scanner → Scanner
  | 0, s => s
  | fuel + 1, s =>
    let c := s.cursor.skipSpaces.skipComment
    match c.lineBreak? with
    | some (_, c) => skipGaps fuel ((s.moveTo c).allowKey (s.keyAllowed || s.isBlock))
    | none => s.moveTo c

def toNextToken (s : Scanner) : Scanner :=
  let s := if s.cursor.index = 0 && s.cursor.startsWith byteOrderMark then s.moveTo s.cursor.step else s
  skipGaps (s.cursor.rest.length + 1) s

def takeEnd (s : Scanner) : Except Fault Scanner := do
  let s ← (s.unwind (-1)).dropKey
  return { (s.emit .streamEnd).allowKey false with keyPlaces := [], done := true }

def takeDirective (s : Scanner) : Except Fault Scanner := do
  let s ← (s.unwind (-1)).dropKey
  let (d, c) ← readDirective s.cursor
  return ((s.allowKey false).emit (.directive d)).moveTo c

def takeDocumentMark (s : Scanner) (t : Token) : Except Fault Scanner := do
  let s ← (s.unwind (-1)).dropKey
  return (s.allowKey false).take t 3

def takeOpen (s : Scanner) (t : Token) : Except Fault Scanner := do
  let s ← s.saveKey
  return ({ s with depth := s.depth + 1 }.allowKey true).take t 1

def takeClose (s : Scanner) (t : Token) : Except Fault Scanner := do
  let s ← s.dropKey
  return ({ s with depth := s.depth - 1 }.allowKey false).take t 1

def takeComma (s : Scanner) : Except Fault Scanner := do
  let s ← (s.allowKey true).dropKey
  return s.take .flowEntry 1

def takeDash (s : Scanner) : Except Fault Scanner := do
  if s.isBlock && !s.keyAllowed then malformed "sequence entries are not allowed here"
  else
    let s := if s.isBlock then s.beginBlock s.cursor.column s.tokens.length .blockSequence else s
    let s ← (s.allowKey true).dropKey
    return s.take .blockEntry 1

def takeQuestion (s : Scanner) : Except Fault Scanner := do
  if s.isBlock && !s.keyAllowed then malformed "mapping keys are not allowed here"
  else
    let s := if s.isBlock then s.beginBlock s.cursor.column s.tokens.length .blockMapping else s
    let s ← (s.allowKey s.isBlock).dropKey
    return s.take .key 1

/-- The colon before a value; what stood before it on the line becomes its key. -/
def takeColon (s : Scanner) : Except Fault Scanner := do
  match s.keyPlace? with
  | some k =>
    let s := s.forgetKey.insertAt k.token .key
    let s := if s.isBlock then s.beginBlock k.column k.token .blockMapping else s
    return (s.allowKey false).take .value 1
  | none =>
    if s.isBlock && !s.keyAllowed then malformed "mapping values are not allowed here"
    else
      let s := if s.isBlock then s.beginBlock s.cursor.column s.tokens.length .blockMapping else s
      let s ← (s.allowKey s.isBlock).dropKey
      return s.take .value 1

/-- A token that may begin a key and whose text a reader gives. -/
def takeText (s : Scanner) (read : Cursor → Scan Token) : Except Fault Scanner := do
  let s ← s.saveKey
  let (t, c) ← read s.cursor
  return ((s.allowKey false).emit t).moveTo c

/-- A plain text; a key may follow it if a line ends in its last gap. -/
def takePlain (s : Scanner) : Except Fault Scanner := do
  let s ← s.saveKey
  let ((text, broken), c) := plainText (!s.isBlock) (s.indent + 1) s.cursor
  return ((s.allowKey broken).emit (.scalar text true)).moveTo c

def takeBlockText (s : Scanner) (folded : Bool) : Except Fault Scanner := do
  let s ← (s.allowKey true).dropKey
  let (text, c) ← blockText folded s.indent s.cursor
  return (s.emit (.scalar text false)).moveTo c

def startsPlain (s : Scanner) (x : Char) : Bool :=
  let next := s.cursor.peekAt 1
  !(isBlank x || isBreak x || "-?:,[]\x7b\x7d#&*!|>\x27\"%@\x60".toList.contains x)
    || (!endsWord next && (x == '-' || (s.isBlock && (x == '?' || x == ':'))))

/-- The next token, by its first character. -/
def takeAt (s : Scanner) (x : Char) : Except Fault Scanner :=
  let c := s.cursor
  let wordEnds := endsWord (c.peekAt 1)
  if x == '%' && c.column == 0 then s.takeDirective
  else if x == '-' && c.column == 0 && c.atMarks '-' then s.takeDocumentMark .documentStart
  else if x == '.' && c.column == 0 && c.atMarks '.' then s.takeDocumentMark .documentEnd
  else if x == '[' then s.takeOpen .flowSequence
  else if x == '\x7b' then s.takeOpen .flowMapping
  else if x == ']' then s.takeClose .flowSequenceEnd
  else if x == '\x7d' then s.takeClose .flowMappingEnd
  else if x == ',' then s.takeComma
  else if x == '-' && wordEnds then s.takeDash
  else if x == '?' && (!s.isBlock || wordEnds) then s.takeQuestion
  else if x == ':' && (!s.isBlock || wordEnds) then s.takeColon
  else if x == '*' then
    s.takeText fun c => (anchorName c.step).map fun (n, c) => (.alias n, c)
  else if x == '&' then
    s.takeText fun c => (anchorName c.step).map fun (n, c) => (.anchor n, c)
  else if x == '!' then s.takeText fun c => (readTag c).map fun (t, c) => (.tag t, c)
  else if x == '|' && s.isBlock then s.takeBlockText false
  else if x == '>' && s.isBlock then s.takeBlockText true
  else if x == '\x27' || x == '"' then
    s.takeText fun c => (quotedText c).map fun (t, c) => (.scalar t false, c)
  else if s.startsPlain x then s.takePlain
  else malformed "found character that cannot start any token"

def next (s : Scanner) : Except Fault Scanner := do
  let s ← s.toNextToken.dropStale
  let s := s.unwind s.cursor.column
  match s.cursor.peek with
  | none => s.takeEnd
  | some x => s.takeAt x

/-- The number of tokens that cannot change any more. -/
def settled (s : Scanner) : Nat :=
  s.keyPlaces.foldl (fun n k => min n k.2.token) s.tokens.length

end Scanner

/-- Tokens, and the fault that broke them off. -/
structure Tokens where
  list : List Token
  fault : Option Fault

/-- Cuts the rest of a text; a fault leaves the tokens that were settled before it. -/
def Scanner.run : Nat → Scanner → Tokens
  | 0, s => ⟨s.tokens, some (.malformed "the text does not end")⟩
  | fuel + 1, s =>
    if s.done then ⟨s.tokens, none⟩
    else match s.dropStale with
      | .error e => ⟨s.tokens.take s.settled, some e⟩
      | .ok s =>
        match s.next with
        | .error e => ⟨s.tokens.take s.settled, some e⟩
        | .ok s => s.run fuel

def Tokens.ofText (text : String) : Tokens :=
  let cs := text.toList
  Scanner.run (cs.length + 2) { cursor := { rest := cs } }

end ElementFinder.Yaml

import ElementFinder.Json.Encoding
import ElementFinder.Json.Fault
import ElementFinder.Number.Read
import ElementFinder.Value.Basic

/-!
# Reading JSON documents

A document is one value with white space around it. Values are the literals, numbers, texts, lists
and mappings of the format, and three words for doubles that have no numeral. The place of a fault is
the number of characters in front of it.
-/

namespace ElementFinder.Json

/-- A place in a document: the text behind it and the number of characters in front of it. -/
structure Cursor where
  rest : List Char
  place : Nat := 0

/-- The place after a number of characters. -/
def Cursor.skip (c : Cursor) (n : Nat) : Cursor := ⟨c.rest.drop n, c.place + n⟩

/-- White space between the parts of a document. -/
def isSpace (c : Char) : Bool := c == ' ' || c == '\t' || c == '\n' || c == '\r'

def Cursor.skipSpace (c : Cursor) : Cursor := c.skip (c.rest.takeWhile isSpace).length

/-- The text breaks the rules at a place. -/
def malformed {α : Type} (problem : Problem) (place : Nat) : Except Fault α :=
  .error (.malformed problem place)

/-- The character that a letter stands for behind a backslash. -/
def escaped? (c : Char) : Option Char :=
  match c with
  | '"' | '\\' | '/' => some c
  | 'b' => some '\x08'
  | 'f' => some '\x0c'
  | 'n' => some '\n'
  | 'r' => some '\r'
  | 't' => some '\t'
  | _ => none

/-- The code that four hexadecimal digits spell, if there is a character behind them. -/
def code? : List Char → Option Nat
  | a :: b :: c :: d :: _ :: _ => Text.numeral? 16 [a, b, c, d]
  | _ => none

/-- An escaped second half of a pair stands here, with one more character behind it at least. -/
def lowHalf? (place : Nat) : List Char → Except Fault (Option Nat)
  | '\\' :: 'u' :: rest =>
    if rest.length ≤ 4 then .ok none
    else match code? rest with
      | none => malformed .code place
      | some n => .ok (if isLowHalf n then some n else none)
  | _ => .ok none

/-- Reads the rest of a text that began at `start`, up to the quote that ends it. -/
def readText (start : Nat) : Nat → Cursor → List Char → Except Fault (String × Cursor)
  | 0, _, _ => malformed .openText start
  | fuel + 1, c, acc =>
    match c.rest with
    | [] | ['\\'] => malformed .openText start
    | '"' :: _ => .ok (String.ofList acc.reverse, c.skip 1)
    | '\\' :: 'u' :: rest =>
      match code? rest with
      | none => malformed .code (c.place + 1)
      | some n =>
        if isHighHalf n then
          match lowHalf? (c.place + 7) (rest.drop 4) with
          | .error f => .error f
          | .ok (some low) => readText start fuel (c.skip 12) (joinHalves n low :: acc)
          | .ok none => readText start fuel (c.skip 6) (charOf n :: acc)
        else readText start fuel (c.skip 6) (charOf n :: acc)
    | '\\' :: x :: _ =>
      match escaped? x with
      | some y => readText start fuel (c.skip 2) (y :: acc)
      | none => malformed .escape c.place
    | x :: _ =>
      if x.toNat ≤ 0x1F then malformed .control c.place
      else readText start fuel (c.skip 1) (x :: acc)

/-- The characters of an integer in front: a sign and digits, no needless zero among them. -/
def integerPart? (cs : List Char) : Option (List Char) :=
  let (sign, body) := match cs with
    | '-' :: rest => (['-'], rest)
    | rest => ([], rest)
  match body with
  | '0' :: _ => some (sign ++ ['0'])
  | d :: _ => if d.isDigit then some (sign ++ body.takeWhile Char.isDigit) else none
  | [] => none

/-- The characters of a fraction in front: a point and at least one digit. -/
def fractionPart : List Char → List Char
  | '.' :: rest =>
    let ds := rest.takeWhile Char.isDigit
    if ds.isEmpty then [] else '.' :: ds
  | _ => []

/-- The characters of an exponent in front: its mark, a sign and at least one digit. -/
def exponentPart : List Char → List Char
  | e :: rest =>
    if e = 'e' ∨ e = 'E' then
      let (sign, body) := match rest with
        | '-' :: more => (['-'], more)
        | '+' :: more => (['+'], more)
        | more => ([], more)
      let ds := body.takeWhile Char.isDigit
      if ds.isEmpty then [] else e :: sign ++ ds
    else []
  | [] => []

/-- Reads a number: an integer, or a double if it has a fraction or an exponent. -/
def readNumber (c : Cursor) : Except Fault (Value × Cursor) :=
  match integerPart? c.rest with
  | none => malformed .value c.place
  | some whole =>
    let rest := c.rest.drop whole.length
    let fraction := fractionPart rest
    let exponent := exponentPart (rest.drop fraction.length)
    let all := whole ++ fraction ++ exponent
    if fraction.isEmpty && exponent.isEmpty then
      match Numeral.read 10 (String.ofList all) with
      | .error f => .error (.numeral f)
      | .ok n => .ok (.int n, c.skip all.length)
    else
      .ok (.float ((Decimal.read? (String.ofList all)).getD 0.0), c.skip all.length)

def words : List (String × Value) :=
  [("null", .null), ("true", .bool true), ("false", .bool false), ("NaN", .float notANumber),
    ("Infinity", .float infinity), ("-Infinity", .float (-infinity))]

def word? (cs : List Char) : Option (String × Value) :=
  words.find? fun w => w.1.toList.isPrefixOf cs

/-- Collections inside each other beyond this depth are refused. -/
def nestingLimit : Nat := 980

mutual

def readValue : Nat → Nat → Cursor → Except Fault (Value × Cursor)
  | 0, _, c => malformed .value c.place
  | fuel + 1, depth, c =>
    match c.rest with
    | '"' :: _ =>
      (readText c.place (c.rest.length + 1) (c.skip 1) []).map fun (s, after) => (.text s, after)
    | '[' :: _ =>
      match depth with
      | 0 => .error .tooDeep
      | depth + 1 =>
        let c := (c.skip 1).skipSpace
        if c.rest.head? = some ']' then .ok (.list [], c.skip 1)
        else (readItems fuel depth c []).map fun (items, after) => (.list items, after)
    | '\x7b' :: _ =>
      match depth with
      | 0 => .error .tooDeep
      | depth + 1 =>
        let c := (c.skip 1).skipSpace
        if c.rest.head? = some '\x7d' then .ok (.map [], c.skip 1)
        else (readEntries fuel depth c []).map fun (entries, after) => (.map entries, after)
    | rest =>
      match word? rest with
      | some (w, v) => .ok (v, c.skip w.length)
      | none => readNumber c

/-- Reads the items of a list up to its end. -/
def readItems : Nat → Nat → Cursor → List Value → Except Fault (List Value × Cursor)
  | 0, _, c, _ => malformed .value c.place
  | fuel + 1, depth, c, acc =>
    match readValue fuel depth c with
    | .error f => .error f
    | .ok (v, c) =>
      let c := c.skipSpace
      match c.rest.head? with
      | some ']' => .ok ((v :: acc).reverse, c.skip 1)
      | some ',' => readItems fuel depth (c.skip 1).skipSpace (v :: acc)
      | _ => malformed .comma c.place

/-- Reads the entries of a mapping up to its end; a later entry of a key replaces an earlier one. -/
def readEntries : Nat → Nat → Cursor → List (Value × Value) →
    Except Fault (List (Value × Value) × Cursor)
  | 0, _, c, _ => malformed .value c.place
  | fuel + 1, depth, c, acc =>
    if c.rest.head? = some '"' then
      match readText c.place (c.rest.length + 1) (c.skip 1) [] with
      | .error f => .error f
      | .ok (key, c) =>
        let c := c.skipSpace
        if c.rest.head? = some ':' then
          match readValue fuel depth (c.skip 1).skipSpace with
          | .error f => .error f
          | .ok (v, c) =>
            let c := c.skipSpace
            let acc := Value.put (.text key) v acc
            match c.rest.head? with
            | some '\x7d' => .ok (acc, c.skip 1)
            | some ',' => readEntries fuel depth (c.skip 1).skipSpace acc
            | _ => malformed .comma c.place
        else malformed .colon c.place
    else malformed .name c.place

end

/-- The value of a document's text. -/
def read (cs : List Char) : Except Fault Value :=
  match readValue (2 * cs.length + 2) nestingLimit (Cursor.skipSpace ⟨cs, 0⟩) with
  | .error f => .error f
  | .ok (v, c) =>
    let c := c.skipSpace
    if c.rest.isEmpty then .ok v else malformed .extra c.place

end ElementFinder.Json

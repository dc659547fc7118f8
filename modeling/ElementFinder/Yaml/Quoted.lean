import ElementFinder.Text.Digit
import ElementFinder.Yaml.Cursor

/-!
# Quoted texts in YAML

Between apostrophes only the doubled apostrophe is special; between double quotes a backslash begins
an escape. Line breaks inside are folded: one becomes a space, more than one lose the first.
-/

namespace ElementFinder.Yaml

def shortEscape? (c : Char) : Option Char :=
  match c with
  | '0' => some '\x00'
  | 'a' => some '\x07'
  | 'b' => some '\x08'
  | 't' | '\t' => some '\t'
  | 'n' => some '\n'
  | 'v' => some '\x0B'
  | 'f' => some '\x0C'
  | 'r' => some '\r'
  | 'e' => some '\x1B'
  | ' ' => some ' '
  | '"' => some '"'
  | '\\' => some '\\'
  | '/' => some '/'
  | 'N' => some '\u0085'
  | '_' => some '\u00A0'
  | 'L' => some '\u2028'
  | 'P' => some '\u2029'
  | _ => none

def codeLength? (c : Char) : Option Nat :=
  match c with
  | 'x' => some 2
  | 'u' => some 4
  | 'U' => some 8
  | _ => none

def charOfCode (n : Nat) : Except Fault Char :=
  if 0x80000000 ≤ n then .error (.value .overflow)
  else if 0x110000 ≤ n then .error (.value (.value "chr() arg not in range(0x110000)"))
  else if 0xD800 ≤ n ∧ n < 0xE000 then .ok '\uFFFD'
  else .ok (Char.ofNat n)

/-- The line breaks here with the blanks around them; no document mark may stand among them. -/
def foldedBreaks : Nat → List Char → Cursor → Scan (List Char)
  | 0, acc, c => .ok (acc.reverse, c)
  | fuel + 1, acc, c =>
    if c.atDocumentMark then malformed "found unexpected document separator"
    else
      let c := c.skipWhile isBlank
      match c.lineBreak? with
      | some (b, c) => foldedBreaks fuel (b :: acc) c
      | none => .ok (acc.reverse, c)

/-- The characters that a gap stands for: the blanks themselves, or the folded line breaks. -/
def quotedGap (c : Cursor) : Except Fault (List Char × Cursor) := do
  let blanks := c.run isBlank
  let c := c.skipWhile isBlank
  match c.lineBreak? with
  | none => return (blanks, c)
  | some (b, c) =>
    let (more, c) ← foldedBreaks (c.rest.length + 1) [] c
    if b ≠ '\n' then return (b :: more, c)
    else if more.isEmpty then return ([' '], c)
    else return (more, c)

/-- The characters that an escape stands for, after its backslash. -/
def quotedEscape (c : Cursor) : Except Fault (List Char × Cursor) := do
  match c.peek with
  | none => malformed "found unknown escape character"
  | some x =>
    match shortEscape? x, codeLength? x with
    | some y, _ => return ([y], c.step)
    | none, some size =>
      let c := c.step
      let digits := c.rest.take size
      match if digits.length = size then Text.numeral? 16 digits else none with
      | some n =>
        let y ← charOfCode n
        return ([y], c.skip size)
      | none => malformed "expected escape sequence of hexadecimal numbers"
    | none, none =>
      match c.lineBreak? with
      | some (_, c) => foldedBreaks (c.rest.length + 1) [] c
      | none => malformed "found unknown escape character"

/-- The rest of a quoted text, after the characters that were read before. -/
def quotedRest (double : Bool) : Nat → List Char → Cursor → Scan String
  | 0, _, _ => malformed "found unexpected end of stream"
  | fuel + 1, acc, c =>
    match c.rest with
    | [] => malformed "found unexpected end of stream"
    | x :: more =>
      if isBlank x || isBreak x then
        match quotedGap c with
        | .ok (cs, c) => quotedRest double fuel (cs.reverse ++ acc) c
        | .error e => .error e
      else if double && x == '\\' then
        match quotedEscape c.step with
        | .ok (cs, c) => quotedRest double fuel (cs.reverse ++ acc) c
        | .error e => .error e
      else if double && x == '"' then .ok (String.ofList acc.reverse, c.step)
      else if !double && x == '\x27' then
        if more.head? == some '\x27' then quotedRest double fuel ('\x27' :: acc) (c.skip 2)
        else .ok (String.ofList acc.reverse, c.step)
      else quotedRest double fuel (x :: acc) c.step

/-- A quoted text, from its opening mark. -/
def quotedText (c : Cursor) : Scan String :=
  quotedRest (c.startsWith '"') (c.rest.length + 1) [] c.step

end ElementFinder.Yaml

import ElementFinder.Text.Digit
import ElementFinder.Text.Letters

/-!
# Quoted texts

A text in quotes, for messages: apostrophes around it unless it holds an apostrophe and no double
quote; the quote, the backslash and characters without a visible form are escaped.
-/

namespace ElementFinder.Text

def quoteMark (cs : List Char) : Char :=
  if cs.contains '\x27' && !cs.contains '"' then '"' else '\x27'

/-- A character escaped by its code: two, four or eight hexadecimal digits. -/
def escapeByCode (n : Nat) : String :=
  if n < 0x100 then "\\x" ++ hexadecimal 2 n
  else if n < 0x10000 then "\\u" ++ hexadecimal 4 n
  else "\\U" ++ hexadecimal 8 n

def escapeChar (mark c : Char) : String :=
  if c = mark || c = '\\' then String.ofList ['\\', c]
  else if c = '\n' then "\\n"
  else if c = '\r' then "\\r"
  else if c = '\t' then "\\t"
  else if isVisible c then c.toString
  else escapeByCode c.toNat

def quoted (s : String) : String :=
  let mark := quoteMark s.toList
  mark.toString ++ String.join (s.toList.map (escapeChar mark)) ++ mark.toString

def escapeByte (mark : Char) (b : UInt8) : String :=
  if b < 128 && (32 ≤ b && b < 127 || b = 9 || b = 10 || b = 13) then
    escapeChar mark (Char.ofNat b.toNat)
  else escapeByCode b.toNat

/-- Bytes between quotes, marked by a `b` in front. -/
def quotedBytes (bs : List UInt8) : String :=
  let mark := quoteMark (bs.map fun b => Char.ofNat b.toNat)
  "b" ++ mark.toString ++ String.join (bs.map (escapeByte mark)) ++ mark.toString

end ElementFinder.Text

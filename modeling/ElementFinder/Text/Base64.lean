/-!
# Bytes in base sixty-four

Four characters spell three bytes; equals signs fill the last group. Characters outside the alphabet
are skipped.
-/

namespace ElementFinder.Base64

def valueOf? (c : Char) : Option Nat :=
  let n := c.toNat
  if 'A' ≤ c && c ≤ 'Z' then some (n - 65)
  else if 'a' ≤ c && c ≤ 'z' then some (n - 71)
  else if c.isDigit then some (n + 4)
  else if c = '+' then some 62
  else if c = '/' then some 63
  else none

/-- The bytes of characters: `place` characters of the open group were read and left `carry` bits
over; `fills` counts the equals signs since then. -/
def read : Nat → Nat → Nat → List UInt8 → List Char → Option (List UInt8)
  | place, _, _, acc, [] => if place = 0 then some acc.reverse else none
  | place, carry, fills, acc, c :: rest =>
    if c = '=' then
      if 2 ≤ place ∧ 4 ≤ place + fills + 1 then some acc.reverse
      else read place carry (if 2 ≤ place then fills + 1 else fills) acc rest
    else match valueOf? c with
      | none => read place carry fills acc rest
      | some v =>
        match place with
        | 0 => read 1 v 0 acc rest
        | 1 => read 2 (v % 16) 0 ((carry * 4 + v / 16).toUInt8 :: acc) rest
        | 2 => read 3 (v % 4) 0 ((carry * 16 + v / 4).toUInt8 :: acc) rest
        | _ => read 0 0 0 ((carry * 64 + v).toUInt8 :: acc) rest

/-- The bytes that characters spell, unless the last group is not whole. -/
def decode? (cs : List Char) : Option (List UInt8) := read 0 0 0 [] cs

end ElementFinder.Base64

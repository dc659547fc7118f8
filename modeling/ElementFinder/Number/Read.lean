import ElementFinder.Number.Numeral
import ElementFinder.Number.Binary

/-!
# Reading doubles

The double nearest to a decimal text: white space around it, a sign, digits with single underscores
between them, a point, an exponent, or a word for infinity or for no number.
-/

namespace ElementFinder.Decimal

/-- Digits with single underscores between them; a group may be empty only as a whole. -/
def digits (cs : List Char) : Option (List Nat × List Char) :=
  Numeral.digitRun 10 cs

/-- An exponent mark with its number, if one stands in front. -/
def exponentPart : List Char → Option (Int × List Char)
  | [] => some (0, [])
  | c :: rest =>
    if c = 'e' ∨ c = 'E' then
      let (negative, body) := Numeral.splitSign rest
      match digits body with
      | some (d :: ds, more) =>
        let n : Int := Text.ofDigits 10 (d :: ds)
        some (if negative then -n else n, more)
      | _ => none
    else some (0, c :: rest)

/-- The double nearest to `n * 10 ^ exponent`; exponents far outside the range are cut off early. -/
def nearest (n : Nat) (exponent : Int) : Float :=
  if n = 0 then 0.0
  else
    let size : Int := (Nat.toDigits 10 n).length + exponent
    if 400 < size then infinity
    else if size < -400 then 0.0
    else if exponent < 0 then Float.ofScientific n true exponent.natAbs
    else Float.ofScientific n false exponent.toNat

def readUnsigned (cs : List Char) : Option Float := do
  let (whole, rest) ← digits cs
  let (fraction, rest) ← match rest with
    | '.' :: more => digits more
    | _ => some ([], rest)
  let (exponent, rest) ← exponentPart rest
  if (whole.isEmpty && fraction.isEmpty) || !rest.isEmpty then none
  else some (nearest (Text.ofDigits 10 (whole ++ fraction)) (exponent - fraction.length))

def readWord (cs : List Char) : Option Float :=
  let word := String.ofList (cs.map Char.toLower)
  if word = "inf" ∨ word = "infinity" then some infinity
  else if word = "nan" then some notANumber
  else none

/-- The double that a text spells, if it spells one. -/
def read? (s : String) : Option Float :=
  let (negative, cs) := Numeral.splitSign (Numeral.core s)
  ((readWord cs).orElse fun _ => readUnsigned cs).map fun x => if negative then -x else x

end ElementFinder.Decimal

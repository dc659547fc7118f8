import ElementFinder.Number.Shortest

/-!
# Decimal texts of doubles

The shortest text that reads back, positional for exponents from -4 to 15, and texts with a fixed
number of places, rounded to the nearest with a half going to the even neighbour.
-/

namespace ElementFinder.Decimal

/-- How a number is laid out when all its digits are shown. -/
structure Layout where
  lowest : Int
  highest : Int
  exponentDigits : Nat

/-- Positional from `0.0001` to below `10 ^ 16`; an exponent has at least two digits. -/
def plain : Layout := ⟨-4, 15, 2⟩

/-- The digits of a number without the zeros at the end. -/
def significant (n : Nat) : List Char :=
  ((Nat.toDigits 10 n).reverse.dropWhile (· = '0')).reverse

/-- Digits with the point after the given number of them; zeros fill the gap. -/
def positional (ds : List Char) (point : Int) : String :=
  if point ≤ 0 then "0." ++ String.ofList (List.replicate (-point).toNat '0' ++ ds)
  else if ds.length ≤ point.toNat then
    String.ofList (ds ++ List.replicate (point.toNat - ds.length) '0') ++ ".0"
  else String.ofList (ds.take point.toNat) ++ "." ++ String.ofList (ds.drop point.toNat)

/-- Digits with the point after the first of them and the exponent behind. -/
def scientific (layout : Layout) (ds : List Char) (exponent : Int) : String :=
  let tail := ds.drop 1
  let power := Nat.toDigits 10 exponent.natAbs
  String.ofList (ds.take 1) ++ (if tail.isEmpty then "" else "." ++ String.ofList tail)
    ++ (if exponent < 0 then "e-" else "e+")
    ++ String.ofList (List.replicate (layout.exponentDigits - power.length) '0' ++ power)

/-- The text of a positive decimal. -/
def ofScaled (layout : Layout) (s : Shortest.Scaled) : String :=
  let point : Int := (Nat.toDigits 10 s.digits).length + s.exponent
  let ds := significant s.digits
  if layout.lowest ≤ point - 1 ∧ point - 1 ≤ layout.highest then positional ds point
  else scientific layout ds (point - 1)

/-- The text of a double that is not finite. -/
def ofSpecial (x : Float) : String :=
  if x.isNaN then "nan" else if isNegativeDouble x then "-inf" else "inf"

/-- The shortest text that reads back as the double. -/
def text (x : Float) : String :=
  match Binary.ofFloat? x with
  | none => ofSpecial x
  | some b =>
    let body := if b.mantissa = 0 then "0.0" else ofScaled plain (Shortest.ofBinary b)
    if b.negative then "-" ++ body else body

/-- The quotient rounded to the nearest integer, a half to the even one. -/
def roundQuotient (num den : Nat) : Nat :=
  let q := num / den
  let r := 2 * (num % den)
  if den < r ∨ (r = den ∧ q % 2 = 1) then q + 1 else q

/-- The double in units of `10 ^ -places`, rounded to the nearest. -/
def units (places : Nat) (b : Binary) : Nat :=
  let (num, den) := b.ratio
  roundQuotient (num * Nat.pow 10 places) den

/-- The text of a double with a fixed, positive number of places. -/
def fixed (places : Nat) (x : Float) : String :=
  match Binary.ofFloat? x with
  | none => ofSpecial x
  | some b =>
    let ds := Nat.toDigits 10 (units places b)
    let padded := List.replicate (places + 1 - ds.length) '0' ++ ds
    let whole := padded.length - places
    (if b.negative then "-" else "") ++ String.ofList (padded.take whole) ++ "."
      ++ String.ofList (padded.drop whole)

/-- The double nearest to the value rounded to a number of places. -/
def rounded (places : Nat) (x : Float) : Float :=
  match Binary.ofFloat? x with
  | none => x
  | some b =>
    let y := Float.ofScientific (units places b) true places
    if b.negative then -y else y

end ElementFinder.Decimal

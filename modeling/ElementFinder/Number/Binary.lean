/-!
# Doubles as binary fractions

A finite double is a sign and a natural number times a power of two. Truncation to an integer and
the conversion of an integer to a double start from this view.
-/

namespace ElementFinder

/-- A finite double: `mantissa * 2 ^ exponent`, with a sign that zero has too. -/
structure Binary where
  negative : Bool
  mantissa : Nat
  exponent : Int
  deriving DecidableEq, Repr

namespace Binary

/-- The fraction that a finite double stands for. -/
def ofFloat? (x : Float) : Option Binary :=
  let bits := x.toBits.toNat
  let negative := bits / Nat.pow 2 63 == 1
  let field : Nat := bits / Nat.pow 2 52 % Nat.pow 2 11
  let low : Nat := bits % Nat.pow 2 52
  if field = 2047 then none
  else if field = 0 then some ⟨negative, low, -1074⟩
  else some ⟨negative, Nat.pow 2 52 + low, (field : Int) - 1075⟩

/-- The size of the fraction over a common denominator: `num / den`. -/
def ratio (b : Binary) : Nat × Nat :=
  (b.mantissa * Nat.pow 2 b.exponent.toNat, Nat.pow 2 (-b.exponent).toNat)

/-- The integer part, toward zero. -/
def truncate (b : Binary) : Int :=
  let (num, den) := b.ratio
  let n : Int := Int.ofNat (num / den)
  if b.negative then -n else n

def isIntegral (b : Binary) : Bool :=
  let (num, den) := b.ratio
  decide (num % den = 0)

end Binary

/-- The double nearest to an integer, unless the integer is beyond all doubles. -/
def doubleOfInt? (n : Int) : Option Float :=
  let x := Float.ofInt n
  if x.isInf then none else some x

/-- The mark of a negative double; negative zero has it too. -/
def isNegativeDouble (x : Float) : Bool :=
  x.toBits.toNat / Nat.pow 2 63 == 1

def notANumber : Float := 0.0 / 0.0

/-- The double above all numbers. -/
def infinity : Float := 1.0 / 0.0

end ElementFinder

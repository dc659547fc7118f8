import ElementFinder.Number.Decimal

/-!
# Numbers

A number as data carries it: an integer of any size or a double.
-/

namespace ElementFinder

/-- An integer or a double. -/
inductive Number where
  | whole (n : Int)
  | real (x : Float)
  deriving DecidableEq

namespace Number

def sameWhole (n : Int) (x : Float) : Bool :=
  match Binary.ofFloat? x with
  | some b => b.isIntegral && b.truncate == n
  | none => false

/-- The two numbers are equal; a double without a number equals itself. -/
def same : Number → Number → Bool
  | .whole a, .whole b => a == b
  | .whole a, .real x => sameWhole a x
  | .real x, .whole a => sameWhole a x
  | .real x, .real y => x == y || (x.isNaN && y.isNaN)

/-- The double nearest to the number, unless it is beyond all doubles. -/
def toDouble? : Number → Option Float
  | .whole n => doubleOfInt? n
  | .real x => some x

def fixed (places : Nat) : Number → String
  | .whole n => Decimal.fixed places (Float.ofInt n)
  | .real x => Decimal.fixed places x

end Number

end ElementFinder

import ElementFinder.Number.Binary

/-!
# Shortest decimals

The decimal with the fewest digits that reads back as a given double; of two such decimals the
nearer one. The reals that read back as the double form an interval around it, which includes its
ends exactly if the mantissa is even.
-/

namespace ElementFinder.Shortest

/-- A positive decimal `digits * 10 ^ exponent`. -/
structure Scaled where
  digits : Nat
  exponent : Int
  deriving DecidableEq, Repr

/-- The interval of reals that round to `value / den`, all over one denominator. -/
structure Interval where
  low : Nat
  value : Nat
  high : Nat
  den : Nat
  closed : Bool

/-- The interval around a positive double. Below a power of two the neighbour is half as far. -/
def intervalOf (b : Binary) : Interval :=
  let up := Nat.pow 2 (b.exponent - 2).toNat
  let below := if b.mantissa = Nat.pow 2 52 ∧ -1074 < b.exponent then 1 else 2
  { low := (4 * b.mantissa - below) * up
    value := 4 * b.mantissa * up
    high := (4 * b.mantissa + 2) * up
    den := Nat.pow 2 (2 - b.exponent).toNat
    closed := b.mantissa % 2 == 0 }

/-- Compares `a / den` with `digits * 10 ^ exponent`. -/
def compareTo (a den : Nat) (s : Scaled) : Ordering :=
  compare (a * Nat.pow 10 (-s.exponent).toNat) (s.digits * Nat.pow 10 s.exponent.toNat * den)

/-- The decimal reads back as the double. -/
def Interval.holds (i : Interval) (s : Scaled) : Bool :=
  match compareTo i.low i.den s, compareTo i.high i.den s with
  | .lt, .gt => true
  | .eq, _ => i.closed
  | _, .eq => i.closed
  | _, _ => false

/-- The greatest `k` with `10 ^ k` at most the value, searched near the binary logarithm. -/
def magnitude (i : Interval) : Int :=
  let guess := ((Nat.log2 i.value : Int) - Nat.log2 i.den) * 1233 / 4096
  let fits (k : Int) := compareTo i.value i.den ⟨1, k⟩ != .lt
  if fits (guess + 1) then guess + 1 else if fits guess then guess else guess - 1

/-- The largest multiple of `10 ^ exponent` that is at most the value. -/
def gridBelow (i : Interval) (exponent : Int) : Nat :=
  i.value * Nat.pow 10 (-exponent).toNat / (i.den * Nat.pow 10 exponent.toNat)

/-- Twice the value against the sum of two neighbouring grid points. -/
def nearerIsUpper (i : Interval) (lower : Nat) (exponent : Int) : Bool :=
  match compareTo (2 * i.value) i.den ⟨2 * lower + 1, exponent⟩ with
  | .gt => true
  | .lt => false
  | .eq => lower % 2 == 1

/-- The neighbour of the value on the grid of `10 ^ exponent` that reads back, the nearer of two. -/
def onGrid? (i : Interval) (exponent : Int) : Option Scaled :=
  let lower := gridBelow i exponent
  match i.holds ⟨lower, exponent⟩, i.holds ⟨lower + 1, exponent⟩ with
  | true, true => some ⟨if nearerIsUpper i lower exponent then lower + 1 else lower, exponent⟩
  | true, false => some ⟨lower, exponent⟩
  | false, true => some ⟨lower + 1, exponent⟩
  | false, false => none

/-- The first grid, from one digit upwards, on which a neighbour of the value reads back. -/
def search (i : Interval) (top : Int) : Nat → Nat → Scaled
  | _, 0 => ⟨gridBelow i (top - 16), top - 16⟩
  | count, fuel + 1 =>
    match onGrid? i (top + 1 - count) with
    | some s => s
    | none => search i top (count + 1) fuel

/-- The shortest decimal that reads back as a positive double. -/
def ofBinary (b : Binary) : Scaled :=
  let i := intervalOf b
  search i (magnitude i) 1 17

end ElementFinder.Shortest

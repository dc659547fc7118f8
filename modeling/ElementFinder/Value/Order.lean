import ElementFinder.Failure
import ElementFinder.Value.Basic

/-!
# Order of data values

Numbers are ordered by size and texts by their characters; values of different kinds have no order.
-/

namespace ElementFinder

def Binary.below (b : Binary) (n : Int) : Bool :=
  let (num, den) := b.ratio
  let size : Int := if b.negative then -num else num
  decide (size < n * den)

def Binary.above (b : Binary) (n : Int) : Bool :=
  let (num, den) := b.ratio
  let size : Int := if b.negative then -num else num
  decide (n * den < size)

/-- The first number is smaller. -/
def Number.less : Number → Number → Bool
  | .whole a, .whole b => a < b
  | .real x, .real y => x < y
  | .whole a, .real y =>
    match Binary.ofFloat? y with
    | some b => b.above a
    | none => y.isInf && !isNegativeDouble y
  | .real x, .whole b =>
    match Binary.ofFloat? x with
    | some c => c.below b
    | none => x.isInf && isNegativeDouble x

/-- The first list comes first by its first different number. -/
def lexicographic : List Nat → List Nat → Bool
  | [], [] => false
  | [], _ => true
  | _, [] => false
  | a :: as, b :: bs => if a = b then lexicographic as bs else a < b

/-- The numbers of a date, from the largest part to the smallest. -/
def Date.numbers (d : Date) : List Nat := [d.year, d.month, d.day]

/-- The numbers of a moment, from the largest part to the smallest. -/
def Moment.numbers (m : Moment) : List Nat :=
  m.date.numbers ++ [m.hour, m.minute, m.second, m.microsecond]

namespace Value

/-- The first value is smaller; none if the two have no order. -/
def less? : Value → Value → Option Bool
  | .text a, .text b => some (decide (a < b))
  | .bytes a, .bytes b => some (lexicographic (a.map (·.toNat)) (b.map (·.toNat)))
  | .date a, .date b => some (lexicographic a.numbers b.numbers)
  | .moment a, .moment b =>
    match a.universal?, b.universal? with
    | some x, some y => some (decide (x < y))
    | none, none => some (lexicographic a.numbers b.numbers)
    | _, _ => none
  | a, b =>
    match a.numeric?, b.numeric? with
    | some x, some y => some (x.less y)
    | _, _ => none

/-- The first list of values is smaller, by the first values that differ. -/
def listLess? : List Value → List Value → Option Bool
  | [], [] => some false
  | [], _ => some true
  | _, [] => some false
  | a :: as, b :: bs => if a.sameKey b then listLess? as bs else a.less? b

end Value

def allOrdered {α : Type} (less? : α → α → Option Bool) : List α → Bool
  | [] => true
  | a :: rest => (rest.all fun b => (less? a b).isSome) && allOrdered less? rest

/-- The items from the smallest to the largest; items of one size stay in their order. -/
def sorted {α : Type} (less? : α → α → Option Bool) (items : List α) : Except Failure (List α) :=
  if allOrdered less? items then
    .ok (items.mergeSort fun a b => !((less? b a).getD false))
  else .error .wrongType

end ElementFinder

import ElementFinder.Failure
import ElementFinder.Number.Read
import ElementFinder.Value.Basic

/-!
# Doubles from data values

The double that a value stands for: numbers, truth values and decimal texts.
-/

namespace ElementFinder

/-- A double without its fraction; it has to be finite. -/
def wholePart (x : Float) : Except Failure Int :=
  match Binary.ofFloat? x with
  | some b => .ok b.truncate
  | none =>
    .error (if x.isNaN then .value "cannot convert float NaN to integer" else .overflow)

namespace Value

def toDouble : Value → Except Failure Float
  | .text s =>
    match Decimal.read? s with
    | some x => .ok x
    | none => .error (.value ("could not convert string to float: " ++ Text.quoted s))
  | v =>
    match v.numeric? with
    | none => .error .wrongType
    | some n =>
      match n.toDouble? with
      | some x => .ok x
      | none => .error .overflow

/-- A count of milliseconds as seconds; only numbers count something. -/
def secondsOfMillis (v : Value) : Except Failure Float :=
  match v.numeric? with
  | none => .error .wrongType
  | some _ => v.toDouble.map (· / 1000.0)

end Value

end ElementFinder

import ElementFinder.Value.Double

/-!
# Deadlines

A moment after which no new work is started. A deadline can be cancelled, which ends it at once; the
clock is read by whoever asks, so each question about time takes the present moment.
-/

namespace ElementFinder

/-- A deadline: the time it allows, in seconds, and the moment it was made. -/
structure Deadline where
  timeout : Float
  start : Float
  cancelled : Bool := false
  deriving DecidableEq

namespace Deadline

/-- A length of time that is never below zero. -/
def atLeastZero (x : Float) : Float := if x < 0.0 then 0.0 else x

/-- The deadline after a length of time. -/
def after (timeout now : Float) : Deadline := { timeout := atLeastZero timeout, start := now }

/-- The deadline after the seconds that a value stands for. -/
def ofSeconds (v : Value) (now : Float) : Except Failure Deadline :=
  v.toDouble.map fun t => after t now

/-- The deadline after the milliseconds that a value counts. -/
def ofMillis (v : Value) (now : Float) : Except Failure Deadline :=
  v.secondsOfMillis.map fun t => after t now

/-- The moment at which the deadline passes. -/
def finish (d : Deadline) : Float := d.start + d.timeout

/-- The deadline has been cancelled. -/
def cancel (d : Deadline) : Deadline := { d with cancelled := true }

/-- The deadline has been cancelled or its moment has come. -/
def expired (d : Deadline) (now : Float) : Bool := d.cancelled || decide (d.finish ≤ now)

/-- The time that is left. -/
def remaining (d : Deadline) (now : Float) : Float :=
  if d.cancelled then 0.0 else atLeastZero (d.finish - now)

/-- The time since the deadline was made. -/
def elapsed (d : Deadline) (now : Float) : Float := now - d.start

/-- The deadline as it stands in reports. -/
def describe (d : Deadline) (now : Float) : String :=
  "Deadline(timeout=" ++ Decimal.text d.timeout ++ ", remaining="
    ++ Decimal.fixed 3 (d.remaining now) ++ ", cancelled="
    ++ (if d.cancelled then "True" else "False") ++ ")"

end Deadline

end ElementFinder

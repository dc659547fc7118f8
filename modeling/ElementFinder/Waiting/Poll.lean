import ElementFinder.Waiting.World

/-!
# Polling

Attempts follow each other without a pause until one succeeds or the deadline has passed. The
deadline is looked at before each attempt and never during one, so an attempt that was begun is
finished, and its result counts. A loop is given a number of rounds; one that has used them up ends
unfinished.
-/

namespace ElementFinder

/-- Why a call ends without a result: it failed, or its rounds were used up. -/
inductive Stop where
  | failed (f : Failure)
  | unfinished

/-- Work that may be left unfinished. -/
abbrev Call (σ α : Type) := ExceptT Stop (StateM (World σ)) α

namespace Call

variable {σ α : Type}

/-- Work as part of a call. -/
def ofWork (w : Work σ α) : Call σ α := fun s =>
  match w s with
  | (.ok a, s) => (.ok a, s)
  | (.error f, s) => (.error (.failed f), s)

/-- Ends a call with a failure. -/
def fail (f : Failure) : Call σ α := throw (.failed f)

/-- Runs a call for its result, which may be a failure. -/
def attempt (c : Call σ α) : Call σ (Except Failure α) := fun s =>
  match c s with
  | (.ok a, s) => (.ok (.ok a), s)
  | (.error (.failed f), s) => (.ok (.error f), s)
  | (.error .unfinished, s) => (.error .unfinished, s)

end Call

/-- How polling ends: with a result after a number of attempts, or at the deadline, with the failure
of the last attempt if there was one. -/
inductive Polled (α : Type) where
  | found (result : α) (count : Nat)
  | missed (count : Nat) (last : Option Failure)

namespace Poll

variable {σ α : Type}

/-- Attempts until one gives a result. Listed failures lead to the next attempt, all others end the
call. -/
def untilResult (attempt : Work σ α) (listed : Failure → Bool) (d : Deadline) :
    Nat → Nat → Option Failure → Call σ (Polled α)
  | 0, _, _ => throw .unfinished
  | rounds + 1, count, last => do
    if ← Call.ofWork (Work.expired (some d)) then return .missed count last
    match ← Call.ofWork attempt.attempt with
    | .ok a => return .found a (count + 1)
    | .error f =>
      if listed f then untilResult attempt listed d rounds (count + 1) (some f) else Call.fail f

/-- Asks until the answer is no. -/
def untilNo (ask : Work σ Bool) (d : Deadline) : Nat → Nat → Call σ (Polled Unit)
  | 0, _ => throw .unfinished
  | rounds + 1, count => do
    if ← Call.ofWork (Work.expired (some d)) then return .missed count none
    if ← Call.ofWork ask then untilNo ask d rounds (count + 1) else return .found () (count + 1)

/-- What ended polling without a result. -/
def reason (d : Deadline) : String := if d.cancelled then "cancelled" else "deadline exceeded"

/-- The words for polling that ended with a failed attempt, or before any. -/
def missedText (description : String) (d : Deadline) : Option Failure → String
  | some f => reason d ++ " after " ++ Decimal.text d.timeout ++ "s: " ++ f.message
  | none => "element \x27" ++ description ++ "\x27 not found: " ++ reason d

/-- The failure of polling that missed its deadline. -/
def missed (text description : String) (d : Deadline) (now : Float) (count : Nat)
    (last : Option Failure) : Failure :=
  .deadline text last (some description) (some (.real d.timeout)) (some count)
    (some (.real (d.elapsed now))) [] []

/-- Polls, and reports to the timing log how it begins and how it ends. -/
def reported (description : String) (d : Deadline) (loop : Call σ (Polled α))
    (text : Deadline → Option Failure → String) : Call σ α := do
  Call.ofWork (Work.emit (.started description d))
  match ← loop with
  | .found a count =>
    Call.ofWork do Work.emit (.succeeded description d (← Work.now) count)
    return a
  | .missed count last =>
    let now ← Call.ofWork Work.now
    let d ← Call.ofWork (Work.standing d)
    Call.ofWork (Work.emit (.failed description d now count last))
    Call.fail (missed (text d last) description d now count last)

/-- What polling for a result is about if nothing is said. -/
def anyElement : String := "element"

/-- What waiting for a no is about if nothing is said. -/
def anyCondition : String := "condition to become false"

/-- The result of the first attempt that has one before the deadline passes. -/
def forResult (rounds : Nat) (attempt : Work σ α) (d : Deadline) (description : String)
    (listed : Failure → Bool) : Call σ α :=
  reported description d (untilResult attempt listed d rounds 0 none) (missedText description)

/-- Waits until the answer to a question is no. -/
def forNo (rounds : Nat) (ask : Work σ Bool) (d : Deadline) (description : String) : Call σ Unit :=
  reported description d (untilNo ask d rounds 0) fun d _ =>
    "Timed out waiting for " ++ description ++ " after " ++ Decimal.text d.timeout
      ++ "s (condition kept returning true)"

end Poll

end ElementFinder

import ElementFinder.Finder.Attempt
import ElementFinder.ObjectMap.Basic
import ElementFinder.Timeouts.Basic
import ElementFinder.Waiting.Poll

/-!
# Finding elements

A finder looks for the elements that selectors describe, until it finds them or a deadline passes. A
search that missed its deadline tells what its last attempt tried, and the last page that it saw can
be kept in a file.
-/

namespace ElementFinder

/-- A finder: its client and its own settings. A timeout of zero or less is not set. -/
structure Finder (σ : Type) where
  client : Client σ
  findTimeoutMs : Int := 0
  optionalFindTimeoutMs : Int := 0
  artifactsDirectory : Option String := none

/-- How long a call waits: as configured or for a number of milliseconds, or until a deadline of the
caller. -/
inductive Limit where
  | usual (optional : Bool) (milliseconds : Int)
  | untilDeadline (d : Deadline)

/-- The failure with what the last attempt tried and the artifacts that were written. -/
def Failure.withNotes (attempts : List LocatorAttempt) (artifacts : List (String × String)) :
    Failure → Failure
  | .deadline text wrapped description timeout count elapsed _ _ =>
    .deadline text wrapped description timeout count elapsed attempts artifacts
  | f => f

namespace Finder

variable {σ : Type}

/-- The time that a call waits, in seconds: its own milliseconds if there are any, or else those of
the finder, or else the configured time. -/
def timeout (f : Finder σ) (configured : Timeouts) (optional : Bool) (milliseconds : Int) :
    Except Failure Value :=
  let own := if optional then f.optionalFindTimeoutMs else f.findTimeoutMs
  if 0 < milliseconds then (Value.int milliseconds).secondsOfMillis.map .float
  else if 0 < own then (Value.int own).secondsOfMillis.map .float
  else .ok (configured.get (if optional then .findOptionalElement else .findElement))

/-- The deadline of a call that begins now. -/
def deadline (f : Finder σ) (configured : Timeouts) : Limit → Work σ Deadline
  | .untilDeadline d => pure d
  | .usual optional milliseconds => do
    let seconds ← Work.ofExcept (f.timeout configured optional milliseconds)
    Work.ofExcept (Deadline.ofSeconds seconds (← Work.now))

/-- Begins a call: it is not cancelled, and there are no notes on it. -/
def startCall : Work σ Unit := modify fun s => { s with cancelled := false, notes := {} }

/-- One attempt with notes of its own. -/
def fresh (attempt : Work σ Element) : Work σ Element := do
  modify fun s => { s with notes := { s.notes with attempts := [] } }
  attempt

/-- Keeps the last page that the call saw in a directory. -/
def keepPage (directory : Option String) (label : String) : Work σ (List (String × String)) := do
  let s ← get
  let (files, records, paths) := Artifact.keep s.files directory label s.wall.stamp s.notes.page
  set { s with files, log := s.log ++ records }
  return paths

/-- What happens to the last page of a search that missed its deadline: it is kept in a directory,
under a label, or dropped. -/
inductive Keeping where
  | keep (directory : Option String) (label : Option String)
  | drop

/-- Keeps the last page, or drops it. -/
def Keeping.run (description : String) : Keeping → Work σ (List (String × String))
  | .keep directory label => keepPage directory (label.getD ("element_" ++ description))
  | .drop => return []

/-- Attempts until the element is found or the deadline passes. -/
def search (rounds : Nat) (s : Selector) (d : Deadline) (attempt : Work σ Element)
    (keeping : Keeping) : Call σ Element := do
  let description ← Call.ofWork (Work.ofExcept s.describe)
  let shown := Text.quoted description
  Call.ofWork (Work.record .debug
    ("Resolving " ++ shown ++ " (timeout " ++ Decimal.fixed 2 d.timeout ++ "s)"))
  match ← (Poll.forResult rounds (fresh attempt) d description Failure.isOwn).attempt with
  | .ok e =>
    Call.ofWork (Work.record .info ("Resolved " ++ shown ++ " via " ++ e.origin.strategy))
    return e
  | .error f =>
    match f with
    | .deadline .. =>
      let attempts := (← get).notes.attempts
      let f := f.withNotes attempts (← Call.ofWork (keeping.run description))
      Call.ofWork (Work.record .warning ("Could not resolve " ++ shown ++ ": " ++ f.message))
      Call.fail f
    | _ => Call.fail f

/-- Finds the element of a selector. -/
def find (f : Finder σ) (configured : Timeouts) (rounds : Nat) (s : Selector) (limit : Limit) :
    Call σ Element := do
  Call.ofWork startCall
  let d ← Call.ofWork (f.deadline configured limit)
  search rounds s d (Attempt.standard f.client s (some d)) (.keep f.artifactsDirectory none)

/-- A selector that a tap has ways of its own for: it asks for a text and for no name. -/
def isTapText (s : Selector) : Bool :=
  (givenText? s.criteria.id).isNone && (givenText? s.criteria.text).isSome

/-- Finds the element of a selector that is about to be tapped. -/
def findForTap (f : Finder σ) (configured : Timeouts) (rounds : Nat) (s : Selector)
    (limit : Limit) : Call σ Element := do
  Call.ofWork startCall
  let d ← Call.ofWork (f.deadline configured limit)
  let attempt :=
    if s.hasRelative then Attempt.byRelation f.client s
    else if isTapText s then Attempt.tap f.client s (some d)
    else Attempt.standard f.client s (some d)
  search rounds s d attempt (.keep f.artifactsDirectory none)

/-- Finds the element of a selector in a single attempt without a deadline. -/
def findOnce (f : Finder σ) (s : Selector) : Work σ Element := do
  startCall
  Attempt.standard f.client s none

/-- What a search tells about the presence of its element: a failure of the library's own family
means that it is not there. -/
def presence (s : Selector) (r : Except Failure Element) : Work σ Bool := do
  match r with
  | .ok _ => return true
  | .error f =>
    if f.isOwn then
      let description ← Work.ofExcept s.describe
      Work.record .debug ("Element " ++ Text.quoted description ++ " not present: " ++ f.message)
      return false
    else throw f

/-- The element is there in a single attempt. -/
def isPresent (f : Finder σ) (s : Selector) : Work σ Bool := do
  modify fun s => { s with notes := {} }
  presence s (← (Attempt.standard f.client s none).attempt)

/-- The element is there, or comes within some milliseconds; without a number, within the configured
time. -/
def appears (f : Finder σ) (configured : Timeouts) (rounds : Nat) (s : Selector)
    (milliseconds : Option Int) : Call σ Bool := do
  Call.ofWork startCall
  let now ← Call.ofWork Work.now
  let d ← Call.ofWork <| Work.ofExcept <| match milliseconds with
    | none => Deadline.ofSeconds (configured.get .findQuick) now
    | some ms => Deadline.ofMillis (.int ms) now
  if 0.0 < d.timeout then
    let r ← (search rounds s d (Attempt.standard f.client s (some d)) .drop).attempt
    Call.ofWork (presence s r)
  else Call.ofWork (f.isPresent s)

/-- Waits until the element is not there any more, some milliseconds or the configured time. -/
def awaitGone (f : Finder σ) (configured : Timeouts) (rounds : Nat) (s : Selector)
    (milliseconds : Int) : Call σ Unit := do
  Call.ofWork startCall
  let now ← Call.ofWork Work.now
  let d ← Call.ofWork <| Work.ofExcept <|
    if 0 < milliseconds then Deadline.ofMillis (.int milliseconds) now
    else Deadline.ofSeconds (configured.get .elementGone) now
  let description ← Call.ofWork (Work.ofExcept s.describe)
  Poll.forNo rounds (f.isPresent s) d ("element \x27" ++ description ++ "\x27 to disappear")

/-- The limit of a call for a named selector: milliseconds of zero are those of the object map, if
the finder has none of its own. -/
def namedLimit (f : Finder σ) (settings : MapSettings) : Limit → Limit
  | .usual optional milliseconds =>
    if milliseconds ≠ 0 then .usual optional milliseconds
    else if optional then
      .usual optional (if f.optionalFindTimeoutMs = 0 then settings.optionalFindTimeoutMs else 0)
    else .usual optional (if f.findTimeoutMs = 0 then settings.findTimeoutMs else 0)
  | limit => limit

/-- Finds the element of a selector that an object map has under a name. -/
def findNamed (f : Finder σ) (configured : Timeouts) (rounds : Nat) (m : ObjectMap)
    (name bindings : Value) (limit : Limit) : Call σ Element := do
  Call.ofWork startCall
  let s ← Call.ofWork (Work.ofExcept (m.selector name bindings))
  let d ← Call.ofWork (f.deadline configured (f.namedLimit m.settings limit))
  let own := f.artifactsDirectory.filter (!·.isEmpty)
  let directory := own.orElse fun _ => m.settings.artifactsDirectory
  let label ← Call.ofWork (Work.ofExcept name.writeOrFail)
  search rounds s d (Attempt.standard f.client s (some d)) (.keep directory (some ("element_" ++ label)))

end Finder

end ElementFinder

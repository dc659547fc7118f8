import ElementFinder.Files.Artifact
import ElementFinder.Remote.Client
import ElementFinder.Report.Timing

/-!
# What a search sees and changes

The client with its state, the clock, the log, the files, and notes on the call in progress. Work is
done on this state; it gives a result or fails, and in both cases leaves the state as it has become.
-/

namespace ElementFinder

/-- The time of day, as it stands in timing lines and in names of files. -/
structure WallClock where
  time : String
  stamp : String
  deriving DecidableEq, Repr

/-- A request that was sent: the moment, and whether the call in progress was cancelled by then. -/
structure Sent where
  request : Request
  moment : Float
  cancelled : Bool
  deriving DecidableEq

/-- Notes on the call in progress: what its latest attempt tried, and the last page it was given. -/
structure Notes where
  attempts : List LocatorAttempt := []
  page : Option String := none
  deriving DecidableEq, Repr

/-- What a search sees and changes. -/
structure World (σ : Type) where
  client : σ
  wall : WallClock
  now : Float := 0.0
  cancelled : Bool := false
  sent : List Sent := []
  log : Log := []
  files : FileTree := {}
  timing : TimingLog := {}
  notes : Notes := {}

/-- Work on the state of a search. -/
abbrev Work (σ α : Type) := ExceptT Failure (StateM (World σ)) α

namespace Work

variable {σ α : Type}

/-- The result of a computation that needs no state. -/
def ofExcept (r : Except Failure α) : Work σ α :=
  match r with
  | .ok a => pure a
  | .error f => throw f

/-- Runs work for its result, which may be a failure. -/
def attempt (w : Work σ α) : Work σ (Except Failure α) := fun s =>
  let (r, s) := w s
  (.ok r, s)

/-- The present moment. -/
def now : Work σ Float := do return (← get).now

/-- Adds a record of the search to the log. -/
def record (level : LogLevel) (message : String) : Work σ Unit :=
  modify fun s => { s with log := s.log.add ⟨.search, level, message⟩ }

/-- Notes what an attempt tried. -/
def note (a : LocatorAttempt) : Work σ Unit :=
  modify fun s => { s with notes := { s.notes with attempts := s.notes.attempts ++ [a] } }

/-- Writes an event to the timing log. -/
def emit (e : TimingEvent) : Work σ Unit := do
  let s ← get
  let (files, records) ← ofExcept (s.timing.emit s.wall.time e s.files)
  set { s with files, log := s.log ++ records }

/-- The deadline as it stands now: the call in progress may have been cancelled. -/
def standing (d : Deadline) : Work σ Deadline := do
  return if (← get).cancelled then d.cancel else d

/-- The deadline has passed or was cancelled; without a deadline there is nothing to pass. -/
def expired : Option Deadline → Work σ Bool
  | none => pure false
  | some d => do return (← standing d).expired (← now)

/-- Sends a request and waits for its answer. -/
def send (c : Client σ) (r : Request) : Work σ r.Answer := fun s =>
  let trip := c.ask r s.client s.now
  (trip.outcome,
    { s with
      client := trip.client
      now := trip.now
      cancelled := s.cancelled || trip.cancels
      sent := s.sent ++ [⟨r, s.now, s.cancelled⟩] })

end Work

end ElementFinder

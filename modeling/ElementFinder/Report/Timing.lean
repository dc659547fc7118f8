import ElementFinder.Files.Basic
import ElementFinder.Report.Log
import ElementFinder.Text.Case
import ElementFinder.Value.Written
import ElementFinder.Waiting.Deadline

/-!
# The timing of searches

Each event of a search is one line: its status, the time of day, its name, what was searched for and
further details. Lines go to the log, to a file, or to both, while the timing log is enabled.
-/

namespace ElementFinder

/-- Something that happened in a search. -/
structure TimingEvent where
  name : String
  description : Option String := none
  status : String := "info"
  details : List (Value × Value) := []

namespace TimingEvent

/-- A name with a value, as it stands in a line. -/
def detail (d : Value × Value) : Except Failure String := do
  return (← d.1.writeOrFail) ++ "=" ++ (← d.2.writeOrFail)

def line (e : TimingEvent) (time : String) : Except Failure String := do
  let details ← e.details.mapM detail
  let described := (e.description.filter (!·.isEmpty)).map ("description=" ++ ·)
  return Text.joined " "
    (["[" ++ Text.lower e.status ++ "]", "[timing]", "time=" ++ time, "event=" ++ e.name]
      ++ described.toList ++ details)

/-- An event of an error, which is logged as a warning. -/
def isError (e : TimingEvent) : Bool := e.status == "error"

/-- The seconds since a deadline was made, in thousandths. -/
def elapsed (d : Deadline) (now : Float) : Value × Value :=
  (.text "elapsed_s", .float (Decimal.rounded 3 (d.elapsed now)))

def allowed (d : Deadline) : Value × Value := (.text "timeout_s", .float d.timeout)

/-- A search begins. -/
def started (description : String) (d : Deadline) : TimingEvent :=
  { name := "poll_start", description := some description, details := [allowed d] }

def succeeded (description : String) (d : Deadline) (now : Float) (attempts : Int) : TimingEvent :=
  { name := "poll_success", description := some description, status := "success"
    details := [(.text "attempts", .int attempts), elapsed d now] }

/-- A search ends without success, by its deadline or because it was cancelled. -/
def failed (description : String) (d : Deadline) (now : Float) (attempts : Int)
    (last : Option Failure) : TimingEvent :=
  { name := if d.cancelled then "poll_cancelled" else "poll_timeout"
    description := some description, status := "error"
    details := [allowed d, (.text "attempts", .int attempts), elapsed d now]
      ++ (last.map fun f => (Value.text "last_error", Value.text f.kindName)).toList }

/-- A span of seconds in whole milliseconds; it has to be finite. -/
def milliseconds (span : Float) : Except Failure Int := wholePart (span * 1000.0)

/-- One query was answered, or missed. -/
def queried (description query : String) (started now : Float) (missed : Bool) :
    Except Failure TimingEvent := do
  let span ← milliseconds (now - started)
  return {
    name := "strategy", description := some description
    status := if missed then "miss" else "hit"
    details := [(.text "strategy", .text query), (.text "round_trip_ms", .int span)] }

end TimingEvent

/-- Whether and where events are written. -/
structure TimingLog where
  enabled : Bool := false
  console : Bool := true
  path : Option String := none
  level : LogLevel := .info
  deriving DecidableEq, Repr

namespace TimingLog

/-- Sets where events are written; the name of the level may be in any letter case. -/
def configure (t : TimingLog) (console : Bool) (path : Option String) (level : String) :
    Except Failure TimingLog :=
  match LogLevel.ofName? (Text.capitals level) with
  | none => .error (.value ("Unknown log level: " ++ level))
  | some l => .ok { t with console, path, level := l }

/-- The record of a line that could not be written to its file. -/
def notWritten (path : String) : LogRecord :=
  ⟨.timing, .warning, "Could not write timing log " ++ path⟩

/-- Adds a line to a file and makes the directories on the way to it. -/
def appendLine (path line : String) (files : FileTree) : FileTree × Log :=
  let (files, made) := files.makeDirectories (files.directoryOf path)
  match if made then files.append? path (line ++ "\n") else none with
  | some files => (files, [])
  | none => (files, [notWritten path])

/-- Writes a line to the log and to the file, if they are wanted. -/
def write (t : TimingLog) (line : String) (isError : Bool) (files : FileTree) : FileTree × Log :=
  let shown : Log :=
    if t.console then Log.add [] ⟨.timing, if isError then .warning else t.level, line⟩ else []
  match t.path.filter (!·.isEmpty) with
  | none => (files, shown)
  | some path =>
    let (files, warnings) := appendLine path line files
    (files, shown ++ warnings)

/-- Writes an event at a time of day, if the timing log is enabled. -/
def emit (t : TimingLog) (time : String) (e : TimingEvent) (files : FileTree) :
    Except Failure (FileTree × Log) :=
  if t.enabled then (e.line time).map fun line => t.write line e.isError files
  else .ok (files, [])

end TimingLog

end ElementFinder

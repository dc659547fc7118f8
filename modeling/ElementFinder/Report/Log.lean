/-!
# Log records

One record has a place in the library where it comes from, a level and a message. Records of level
zero are dropped.
-/

namespace ElementFinder

/-- The two places that records come from: searches, and the timing of searches. -/
inductive LogSource where
  | search
  | timing
  deriving DecidableEq, Repr

def LogSource.name : LogSource → String
  | .search => "uiauto_wda"
  | .timing => "uiauto_wda.timing"

/-- How serious a record is. -/
inductive LogLevel where
  | unset
  | debug
  | info
  | warning
  | error
  | critical
  deriving DecidableEq, Repr

namespace LogLevel

def name : LogLevel → String
  | .unset => "NOTSET"
  | .debug => "DEBUG"
  | .info => "INFO"
  | .warning => "WARNING"
  | .error => "ERROR"
  | .critical => "CRITICAL"

/-- The level with a name in capitals; two levels have a second name. -/
def ofName? (name : String) : Option LogLevel :=
  match name with
  | "NOTSET" => some .unset
  | "DEBUG" => some .debug
  | "INFO" => some .info
  | "WARNING" | "WARN" => some .warning
  | "ERROR" => some .error
  | "CRITICAL" | "FATAL" => some .critical
  | _ => none

end LogLevel

/-- One record. -/
structure LogRecord where
  source : LogSource
  level : LogLevel
  message : String
  deriving DecidableEq, Repr

/-- The records so far, the latest last. -/
abbrev Log := List LogRecord

/-- The log with one more record, unless the record has no level. -/
def Log.add (log : Log) (record : LogRecord) : Log :=
  if record.level = .unset then log else log ++ [record]

end ElementFinder

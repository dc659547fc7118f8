import ElementFinder.Text.Case
import ElementFinder.Value.Double
import ElementFinder.Value.Written

/-!
# Timeouts

How long each kind of operation may take, in seconds. A preset changes some of the usual timeouts;
overrides and the defaults of an object map change them further. A timeout is kept as the value it
was given as, and has to be a number only where it is used.
-/

namespace ElementFinder

/-- The kinds of operations with a timeout. -/
inductive TimeoutField where
  | findElement
  | findOptionalElement
  | findQuick
  | elementGone
  | httpRequest
  deriving DecidableEq, Repr

namespace TimeoutField

/-- All kinds in their order. -/
def all : List TimeoutField := [findElement, findOptionalElement, findQuick, elementGone, httpRequest]

def name : TimeoutField → String
  | findElement => "find_element"
  | findOptionalElement => "find_optional_element"
  | findQuick => "find_quick"
  | elementGone => "element_gone"
  | httpRequest => "http_request"

def ofName? (s : String) : Option TimeoutField := all.find? fun f => f.name == s

def usual : TimeoutField → Float
  | findElement => 17.0
  | findOptionalElement => 7.0
  | findQuick => 1.0
  | elementGone => 17.0
  | httpRequest => 60.0

end TimeoutField

/-- A timeout for each kind of operation. -/
structure Timeouts where
  findElement : Value
  findOptionalElement : Value
  findQuick : Value
  elementGone : Value
  httpRequest : Value

namespace Timeouts

/-- The timeout of a kind. -/
def get (t : Timeouts) : TimeoutField → Value
  | .findElement => t.findElement
  | .findOptionalElement => t.findOptionalElement
  | .findQuick => t.findQuick
  | .elementGone => t.elementGone
  | .httpRequest => t.httpRequest

/-- The timeouts with another one for a kind. -/
def set (t : Timeouts) (f : TimeoutField) (v : Value) : Timeouts :=
  match f with
  | .findElement => { t with findElement := v }
  | .findOptionalElement => { t with findOptionalElement := v }
  | .findQuick => { t with findQuick := v }
  | .elementGone => { t with elementGone := v }
  | .httpRequest => { t with httpRequest := v }

/-- The timeouts given by a value for each kind. -/
def ofFields (v : TimeoutField → Value) : Timeouts :=
  ⟨v .findElement, v .findOptionalElement, v .findQuick, v .elementGone, v .httpRequest⟩

def usual : Timeouts := ofFields fun f => .float f.usual

def timeoutKey : String := "timeout"

/-- A timeout as data. -/
def settingValue (v : Value) : Value := .map [(.text timeoutKey, v)]

/-- The timeouts as data. -/
def toValue (t : Timeouts) : Value :=
  .map (TimeoutField.all.map fun f => (.text f.name, settingValue (t.get f)))

/-- The presets: what each one changes in the usual timeouts. -/
def presets : List (String × List (TimeoutField × Float)) :=
  [("default", []),
    ("fast", [(.findElement, 8.0), (.findOptionalElement, 3.0), (.findQuick, 0.5),
      (.elementGone, 8.0), (.httpRequest, 30.0)]),
    ("slow", [(.findElement, 30.0), (.findOptionalElement, 12.0), (.findQuick, 2.0),
      (.elementGone, 30.0)]),
    ("ci", [(.findElement, 40.0), (.findOptionalElement, 15.0), (.findQuick, 3.0),
      (.elementGone, 40.0), (.httpRequest, 90.0)])]

def presetsValue : Value :=
  .map (presets.map fun p =>
    (.text p.1, .map (p.2.map fun c => (.text c.1.name, settingValue (.float c.2)))))

def usualPreset : String := "default"

/-- The name that a preset is looked up by: letter case does not count, and an empty name stands for
the usual preset. -/
def presetKey (name : Option String) : String :=
  Text.lower ((name.filter (!·.isEmpty)).getD usualPreset)

def ofPreset (name : Option String) : Except Failure Timeouts :=
  match presets.find? (·.1 == presetKey name) with
  | some (_, changes) => .ok (changes.foldl (fun t c => t.set c.1 (.float c.2)) usual)
  | none => .error (.value ("Unknown timing preset: " ++ name.getD "None"))

/-- The timeout that the data for a kind gives: a setting as it stands, or the number in a mapping. -/
def readSetting (f : TimeoutField) (v : Value) : Except Failure Value := do
  match v with
  | .setting t => return t
  | .map entries =>
    match Value.field? timeoutKey entries with
    | some t => return .float (← t.toDouble)
    | none => throw (.key timeoutKey)
  | v => throw (.value ("Invalid timeout setting for " ++ f.name ++ ": " ++ (← v.writeOrFail)))

/-- Sets the timeouts of some kinds from data, one after the other, up to the first fault. -/
def assignAll (entries : List (Value × Value)) : List TimeoutField → Timeouts → Timeouts × Option Failure
  | [], t => (t, none)
  | f :: rest, t =>
    match readSetting f ((Value.field? f.name entries).getD .null) with
    | .ok v => assignAll entries rest (t.set f v)
    | .error e => (t, some e)

/-- Sets all timeouts from data; a fault leaves those before it set. -/
def assign (t : Timeouts) (data : Value) : Timeouts × Option Failure :=
  match data with
  | .map entries => assignAll entries TimeoutField.all t
  | _ => (t, some (.other "AttributeError" ""))

/-- The timeout that an override gives instead of the old one. -/
def overridden (f : TimeoutField) (old : Value) (v : Value) : Except Failure Value := do
  match v with
  | .setting t => return t
  | .map entries =>
    match Value.field? timeoutKey entries with
    | none | some .null => return old
    | some t => return t
  | v =>
    match v.numeric? with
    | some _ => return .float (← v.toDouble)
    | none => throw (.value ("Invalid override for " ++ f.name ++ ": " ++ (← v.writeOrFail)))

def fieldOfKey (key : Value) : Except Failure TimeoutField := do
  let found := match key with
    | .text name => TimeoutField.ofName? name
    | _ => none
  match found with
  | some f => return f
  | none => throw (.value ("Unknown TimeConfig field: " ++ (← key.writeOrFail)))

/-- Overrides some timeouts, one after the other, up to the first fault. -/
def override : Timeouts → List (Value × Value) → Timeouts × Option Failure
  | t, [] => (t, none)
  | t, (key, v) :: rest =>
    match fieldOfKey key >>= fun f => (overridden f (t.get f) v).map (t.set f) with
    | .ok t => t.override rest
    | .error e => (t, some e)

/-- The override that a default of an object map gives, in milliseconds, unless it is zero. -/
def appOverride (f : TimeoutField) (key : String) (defaults : List (Value × Value)) :
    Except Failure (List (Value × Value)) := do
  match Value.field? key defaults with
  | none => return []
  | some v =>
    if v.truthy then return [(.text f.name, settingValue (.float ((← v.toDouble) / 1000.0)))]
    else return []

/-- The entries of a mapping that may be left out. -/
def optionalEntries (v : Value) : Except Failure (List (Value × Value)) :=
  match v with
  | .map entries => .ok entries
  | v => if v.truthy then .error (.other "AttributeError" "") else .ok []

/-- The overrides that the defaults of an object map give. -/
def appOverrides (defaults : Value) : Except Failure (List (Value × Value)) := do
  let entries ← optionalEntries defaults
  let find ← appOverride .findElement "find_timeout_ms" entries
  let optional ← appOverride .findOptionalElement "optional_find_timeout_ms" entries
  return find ++ optional

end Timeouts

end ElementFinder

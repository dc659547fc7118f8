import ElementFinder.Timeouts.Basic

/-!
# Configurations in force

The configurations of a process. One of them is in force: the innermost override that is entered,
else the one installed for the run, else the default of the process, which is made when it is first
needed. Configurations are kept by number, so that two names can stand for the same one.
-/

namespace ElementFinder

abbrev ConfigId := Nat

/-- All configurations, and the numbers of those in force. The overrides that are entered are known by
what was in force before each of them, innermost first. -/
structure ConfigStore where
  cells : List Timeouts := []
  default? : Option ConfigId := none
  run? : Option ConfigId := none
  override? : Option ConfigId := none
  entered : List (Option ConfigId) := []

/-- A step that may fail; what it changed before it failed stays changed. -/
abbrev ConfigStep := ExceptT Failure (StateM ConfigStore)

namespace ConfigStore

/-- The configuration with a number. -/
def cell (s : ConfigStore) (id : ConfigId) : Timeouts := s.cells[id]?.getD .usual

/-- The store with one more configuration, which gets the next number. -/
def alloc (s : ConfigStore) (t : Timeouts) : ConfigId × ConfigStore :=
  (s.cells.length, { s with cells := s.cells ++ [t] })

/-- The store with another content for a number. -/
def update (s : ConfigStore) (id : ConfigId) (t : Timeouts) : ConfigStore :=
  { s with cells := s.cells.set id t }

def default (s : ConfigStore) : ConfigId × ConfigStore :=
  match s.default? with
  | some id => (id, s)
  | none =>
    let (id, s) := s.alloc .usual
    (id, { s with default? := some id })

/-- The configuration in force. -/
def current (s : ConfigStore) : ConfigId × ConfigStore :=
  match s.override?, s.run? with
  | some id, _ => (id, s)
  | none, some id => (id, s)
  | none, none => s.default

def install (s : ConfigStore) (id : ConfigId) : ConfigStore := { s with run? := some id }

def clearRun (s : ConfigStore) : ConfigStore := { s with run? := none }

/-- Takes all configurations out of force and makes a new default. -/
def reset (s : ConfigStore) : ConfigStore :=
  let (id, s) := s.alloc .usual
  { s with default? := some id, run? := none, override? := none }

/-- Forgets the default, so that a new one is made when it is needed. -/
def forgetDefault (s : ConfigStore) : ConfigStore := { s with default? := none }

end ConfigStore

namespace ConfigStep

/-- A result that may be a failure. -/
def ofExcept {α : Type} (r : Except Failure α) : ConfigStep α :=
  match r with
  | .ok a => pure a
  | .error e => throw e

/-- The configuration in force. -/
def current : ConfigStep ConfigId := do
  let (id, s) := (← get).current
  set s
  return id

/-- The default of the process, which is in force where nothing else is. -/
def default : ConfigStep ConfigId := do
  let (id, s) := (← get).default
  set s
  return id

def keep (t : Timeouts) : ConfigStep ConfigId := do
  let (id, s) := (← get).alloc t
  set s
  return id

/-- The content of a configuration. -/
def read (id : ConfigId) : ConfigStep Timeouts := do
  return (← get).cell id

/-- Changes the content of a configuration; a fault leaves what was changed before it. -/
def change (id : ConfigId) (f : Timeouts → Timeouts × Option Failure) : ConfigStep Unit := do
  let (t, fault) := f ((← get).cell id)
  modify fun s => s.update id t
  match fault with
  | some e => throw e
  | none => return ()

/-- Sets the timeouts of a configuration from data. -/
def assign (id : ConfigId) (data : Value) : ConfigStep Unit :=
  change id fun t => t.assign data

/-- Overrides some timeouts of a configuration. -/
def override (id : ConfigId) (entries : List (Value × Value)) : ConfigStep Unit :=
  change id fun t => t.override entries

def setField (id : ConfigId) (f : TimeoutField) (v : Value) : ConfigStep Unit :=
  modify fun s => s.update id ((s.cell id).set f v)

/-- A copy of a configuration; all its timeouts have to be numbers. -/
def clone (id : ConfigId) : ConfigStep ConfigId := do
  let copy ← keep .usual
  assign copy (← read id).toValue
  return copy

/-- Installs a copy of the configuration in force with the timeouts of a preset. -/
def applyPreset (name : Option String) : ConfigStep Unit := do
  let base ← clone (← current)
  let preset ← ofExcept (Timeouts.ofPreset name)
  assign base preset.toValue
  modify fun s => s.install base

/-- The preset for machines that run tests, which are slow. -/
def applyCi : ConfigStep Unit := applyPreset (some "ci")

/-- The preset for the machine of a developer. -/
def applyLocal : ConfigStep Unit := applyPreset (some "fast")

/-- Whether a key can be the name of an argument; one name is taken. -/
def namesArgument : Value → Bool
  | .text name => name != "cls"
  | _ => false

/-- Enters an override: a copy of the configuration in force with some timeouts overridden. -/
def enter (values : Value) : ConfigStep ConfigId := do
  match values with
  | .map entries =>
    if !entries.all (namesArgument ·.1) then throw .wrongType
    else
      let before := (← get).override?
      let new ← clone (← current)
      override new entries
      modify fun s => { s with override? := some new, entered := before :: s.entered }
      return new
  | _ => throw .wrongType

/-- Leaves the innermost override: what was in force before it is in force again. -/
def leave : ConfigStep Unit := do
  match (← get).entered with
  | [] => throw .outOfRange
  | before :: rest => modify fun s => { s with override? := before, entered := rest }

/-- Runs a body under an override, which is left however the body ends. -/
def overriding {α : Type} (values : Value) (body : ConfigId → ConfigStep α) : ConfigStep α := do
  let id ← enter values
  try body id finally leave

/-- A configuration that is built from a preset, overrides and, on the usual preset only, the defaults of
an object map. -/
def build (preset : Option String) (overrides appDefaults : Value) : ConfigStep ConfigId := do
  let base ← ofExcept (Timeouts.ofPreset preset)
  let new ← keep base
  override new (← ofExcept (Timeouts.optionalEntries overrides))
  if appDefaults.truthy && preset == some Timeouts.usualPreset then
    override new (← ofExcept (Timeouts.appOverrides appDefaults))
  return new

end ConfigStep

/-- The timeouts of a configuration that is built. -/
def Timeouts.build (preset : Option String) (overrides appDefaults : Value) : Except Failure Timeouts :=
  let content : ConfigStep Timeouts := do
    ConfigStep.read (← ConfigStep.build preset overrides appDefaults)
  (content.run.run {}).1

end ElementFinder

import ElementFinder.Selector.Read
import ElementFinder.Value.Order

/-!
# The form of object maps

What an object map may look like: a block of settings and a block of selectors. A selector is a text
or a mapping whose known keys have values of the right kinds; keys that are not known are left to the
reading of the selector. Each fault has the path to the value that is wrong.
-/

namespace ElementFinder

/-- The value is an integer or a double that is one; truth values are not. -/
def Value.isWhole : Value → Bool
  | .int _ => true
  | .float x => ((Binary.ofFloat? x).map (·.isIntegral)).getD false
  | _ => false

/-- The value is a number below zero; truth values are no numbers here. -/
def Value.isBelowZero : Value → Bool
  | .int n => n < 0
  | .float x => x < 0.0
  | _ => false

def Value.isText : Value → Bool
  | .text _ => true
  | _ => false

/-- The value is a truth value. -/
def Value.isBool : Value → Bool
  | .bool _ => true
  | _ => false

namespace Schema

/-- What the form asks of the value of a key of a selector. -/
inductive Property where
  | text
  | whole
  | count
  | truth
  | wholeOrText
  | selector
  | selectors
  deriving DecidableEq, Repr

/-- The keys that a selector may have and what is asked of their values. -/
def properties : List (String × Property) :=
  [("text", .text), ("element", .text), ("id", .text), ("width", .whole), ("height", .whole),
    ("tolerance", .count), ("enabled", .truth), ("selected", .truth), ("focused", .truth),
    ("index", .wholeOrText), ("below", .selector), ("above", .selector), ("leftOf", .selector),
    ("rightOf", .selector), ("childOf", .selector), ("containsChild", .selector),
    ("insideOf", .selector), ("containsDescendants", .selectors)]

/-- What is asked of the value of a key; nothing of that of an unknown one. -/
def property? (key : Value) : Option Property :=
  match key with
  | .text name => (properties.find? fun p => p.1 == name).map (·.2)
  | _ => none

/-- The value is of the kind that is asked for, where this is no selector. -/
def Property.fits (p : Property) (v : Value) : Bool :=
  match p with
  | .text => v.isText
  | .whole => v.isWhole
  | .count => v.isWhole && !v.isBelowZero
  | .truth => v.isBool
  | .wholeOrText => v.isWhole || v.isText
  | .selector | .selectors => true

mutual

def fitsSelector : Value → Bool
  | .text t => !t.isEmpty
  | .map entries => fitsEntries entries
  | _ => false

/-- The entries with known keys have values of the right form. -/
def fitsEntries : List (Value × Value) → Bool
  | [] => true
  | (key, value) :: rest =>
    (match property? key with
      | none => true
      | some .selector => fitsSelector value
      | some .selectors => fitsItems value
      | some p => p.fits value)
      && fitsEntries rest

/-- The value is a list of selectors. -/
def fitsItems : Value → Bool
  | .list items => fitsAll items
  | _ => false

/-- All values have the form of selectors. -/
def fitsAll : List Value → Bool
  | [] => true
  | v :: rest => fitsSelector v && fitsAll rest

end

mutual

/-- The value has a reference to an enclosing value where a selector is expected. -/
def returnsToItself : Value → Bool
  | .enclosing isMap => isMap
  | .map entries => entriesReturn entries
  | _ => false

def entriesReturn : List (Value × Value) → Bool
  | [] => false
  | (key, value) :: rest =>
    (match property? key with
      | some .selector => returnsToItself value
      | some .selectors => itemsReturn value
      | _ => false)
      || entriesReturn rest

/-- The same for a list of selectors. -/
def itemsReturn : Value → Bool
  | .list items => anyReturns items
  | .enclosing isMap => !isMap
  | _ => false

/-- The same for some values. -/
def anyReturns : List Value → Bool
  | [] => false
  | v :: rest => returnsToItself v || anyReturns rest

end

/-- A fault of an object map. -/
structure Fault where
  path : List Value
  words : String

/-- The value at a path is of another type than the named one. -/
def notOfType (path : List Value) (type : String) (v : Value) : Except Failure Fault := do
  return ⟨path, (← v.displayOrFail) ++ " is not of type " ++ Text.quoted type⟩

/-- The fault of a value of another type, if it is one. -/
def typeFault (path : List Value) (type : String) (fits : Bool) (v : Value) :
    Except Failure (List Fault) := do
  if fits then return [] else return [← notOfType path type v]

/-- The keys of the block of settings. -/
def settingKeys : List String :=
  ["find_timeout_ms", "optional_find_timeout_ms", "artifacts_dir", "strict_selector_keys"]

/-- The keys of an object map. -/
def blockKeys : List String := ["app", "selectors"]

def isKnown (known : List String) (key : Value) : Bool :=
  known.any fun k => (Value.text k).sameKey key

/-- The faults of a count: an integer that is not below zero. -/
def countFaults (path : List Value) (v : Value) : Except Failure (List Fault) := do
  let wrongType ← typeFault path "integer" v.isWhole v
  if v.isBelowZero then
    return wrongType ++ [⟨path, (← v.displayOrFail) ++ " is less than the minimum of 0"⟩]
  else return wrongType

/-- The fault of keys beyond the known ones, in the order of their written forms. -/
def extraFaults (path : List Value) (known : List String) (entries : List (Value × Value)) :
    Except Failure (List Fault) := do
  let extras := entries.filter fun e => !isKnown known e.1
  if extras.isEmpty then return []
  else
    let written ← extras.mapM fun e => do
      let text ← e.1.writeOrFail
      let shown ← e.1.displayOrFail
      pure (text, shown)
    let inOrder := written.mergeSort fun a b => decide (a.1 ≤ b.1)
    let verb := if extras.length = 1 then "was" else "were"
    return [⟨path, "Additional properties are not allowed ("
      ++ Text.joined ", " (inOrder.map (·.2)) ++ " " ++ verb ++ " unexpected)"⟩]

/-- The faults of the value of a key, if there is one. -/
def fieldFaults (path : List Value) (name : String) (entries : List (Value × Value))
    (check : List Value → Value → Except Failure (List Fault)) : Except Failure (List Fault) :=
  match Value.field? name entries with
  | none => .ok []
  | some v => check (path ++ [.text name]) v

def settingsFaults (path : List Value) (v : Value) : Except Failure (List Fault) := do
  match v with
  | .map entries =>
    let find ← fieldFaults path "find_timeout_ms" entries countFaults
    let optional ← fieldFaults path "optional_find_timeout_ms" entries countFaults
    let directory ← fieldFaults path "artifacts_dir" entries fun p v =>
      typeFault p "string" v.isText v
    let strict ← fieldFaults path "strict_selector_keys" entries fun p v =>
      typeFault p "boolean" v.isBool v
    let extra ← extraFaults path settingKeys entries
    return find ++ optional ++ directory ++ strict ++ extra
  | v => return [← notOfType path "object" v]

/-- The fault of the value of a selector, if it is wrong. Each of the two forms that it may have is
tried, and the words for not having it are found before the form inside is looked at. -/
def selectorFaults (path : List Value) (v : Value) : Except Failure (List Fault) := do
  let shown ← v.displayOrFail
  if returnsToItself v then throw .endless
  else if fitsSelector v then return []
  else return [⟨path, shown ++ " is not valid under any of the given schemas"⟩]

def selectorsFaults (path : List Value) (v : Value) : Except Failure (List Fault) := do
  match v with
  | .map entries =>
    return (← entries.mapM fun e => selectorFaults (path ++ [e.1]) e.2).flatten
  | v => return [← notOfType path "object" v]

/-- The faults of an object map with the given entries, part by part. -/
def faults (entries : List (Value × Value)) : Except Failure (List Fault) := do
  let settings ← fieldFaults [] "app" entries settingsFaults
  let selectors ← fieldFaults [] "selectors" entries selectorsFaults
  let missing := if (Value.field? "selectors" entries).isSome then []
    else [⟨[], "\x27selectors\x27 is a required property"⟩]
  let extra ← extraFaults [] blockKeys entries
  return settings ++ selectors ++ missing ++ extra

def Fault.line (f : Fault) : Except Failure String := do
  let path ← (Value.list f.path).displayOrFail
  return "- " ++ path ++ ": " ++ f.words

/-- Accepts an object map, or fails with all its faults in the order of their paths. -/
def check (entries : List (Value × Value)) : Except Failure Unit := do
  let found ← faults entries
  let inOrder ← sorted (fun a b => Value.listLess? a.path b.path) found
  if inOrder.isEmpty then return ()
  else
    let lines ← inOrder.mapM Fault.line
    throw (.config (Text.joined "\n" ("Object map schema validation failed:" :: lines)))

end Schema

end ElementFinder

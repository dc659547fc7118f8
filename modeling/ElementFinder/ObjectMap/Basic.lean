import ElementFinder.Files.Basic
import ElementFinder.ObjectMap.Placeholder
import ElementFinder.ObjectMap.Schema
import ElementFinder.Text.Utf8
import ElementFinder.Value.Double
import ElementFinder.Yaml.Meaning

/-!
# Object maps

A file with named selectors and settings for searches. It is read as a whole: a map whose form or
whose selectors are wrong does not load.
-/

namespace ElementFinder

/-- The settings of an object map. -/
structure MapSettings where
  findTimeoutMs : Int := 0
  optionalFindTimeoutMs : Int := 0
  artifactsDirectory : Option String := none
  strict : Bool := true
  deriving DecidableEq, Repr

def MapSettings.defaults (s : MapSettings) : Except Failure Value := do
  let find ← (Value.int s.findTimeoutMs).toDouble
  let optional ← (Value.int s.optionalFindTimeoutMs).toDouble
  return .map [(.text "find_timeout_ms", .float find),
    (.text "optional_find_timeout_ms", .float optional)]

/-- An object map: its settings, and the data of its selectors by their names. -/
structure ObjectMap where
  settings : MapSettings
  selectors : List (Value × Value)

namespace ObjectMap

/-- Line breaks of all systems as line feeds. -/
def plainBreaks : List Char → List Char
  | [] => []
  | '\r' :: '\n' :: rest => '\n' :: plainBreaks rest
  | '\r' :: rest => '\n' :: plainBreaks rest
  | c :: rest => c :: plainBreaks rest

def textOf (bytes : List UInt8) : Except Failure String :=
  match Utf8.decode bytes with
  | .ok cs => .ok (String.ofList (plainBreaks cs))
  | .error _ => .error .undecodable

/-- The data of the object map of a text; the values in its blocks stand each on its own. -/
def dataOf (text : String) : Except Yaml.Fault Value := Yaml.read (.each (.each .whole)) text

def entriesOf (bytes : List UInt8) : Except Failure (List (Value × Value)) := do
  let text ← textOf bytes
  match dataOf text with
  | .error (.malformed reason) => throw (.config ("Invalid YAML: " ++ reason))
  | .error (.value f) => throw f
  | .ok (.map entries) => return entries
  | .ok _ => throw (.config "Object map YAML must be a mapping at root.")

/-- The entries of a block, which may be missing. -/
def block (name : String) (entries : List (Value × Value)) : List (Value × Value) :=
  match Value.field? name entries with
  | some (.map es) => es
  | _ => []

/-- A count of the settings; zero if it is missing. -/
def countOf (name : String) (settings : List (Value × Value)) : Except Failure Int := do
  match Value.field? name settings with
  | none => return 0
  | some v =>
    match ← v.toInteger with
    | some n => return n
    | none => throw .wrongType

/-- The directory for artifacts; a relative one lies beside the object map. -/
def directoryOf (beside : String) (settings : List (Value × Value)) : Option String :=
  match Value.field? "artifacts_dir" settings with
  | some (.text d) =>
    some (if d.isEmpty || FileTree.isAbsolute d then d else FileTree.join beside d)
  | _ => none

/-- Unknown keys of selectors are faults, unless the settings allow them. -/
def strictOf (settings : List (Value × Value)) : Bool :=
  match Value.field? "strict_selector_keys" settings with
  | some v => v.truthy
  | none => true

def settingsOf (beside : String) (settings : List (Value × Value)) : Except Failure MapSettings := do
  let find ← countOf "find_timeout_ms" settings
  let optional ← countOf "optional_find_timeout_ms" settings
  return ⟨find, optional, directoryOf beside settings, strictOf settings⟩

def readSelector (strict : Bool) (name data : Value) : Except Failure Selector := do
  Selector.ofValue strict ("selectors." ++ (← name.writeOrFail)) data

/-- The object map with the given entries, in a directory. -/
def ofEntries (directory : String) (entries : List (Value × Value)) : Except Failure ObjectMap := do
  Schema.check entries
  let settings ← settingsOf directory (block "app" entries)
  let selectors := block "selectors" entries
  for e in selectors do
    let _ ← readSelector settings.strict e.1 e.2
  return ⟨settings, selectors⟩

/-- The object map in a file of a directory; the file may be missing. -/
def load (directory name : String) (content : Option (List UInt8)) : Except Failure ObjectMap := do
  match content with
  | none => throw (.config ("Object map YAML not found: " ++ FileTree.join directory name))
  | some bytes => ofEntries directory (← entriesOf bytes)

/-- The selector with a name, with its placeholders filled in if there are bindings. -/
def selector (m : ObjectMap) (name bindings : Value) : Except Failure Selector := do
  if !name.isKey then throw .wrongType
  else match Value.lookup name m.selectors with
    | none => throw (.config ("Unknown selector: " ++ (← name.writeOrFail)))
    | some data =>
      let data ← if bindings.truthy then Placeholder.fill bindings data else pure data
      readSelector m.settings.strict name data

def names (m : ObjectMap) : Except Failure (List Value) :=
  sorted Value.less? (m.selectors.map (·.1))

end ObjectMap

end ElementFinder

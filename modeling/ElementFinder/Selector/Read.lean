import ElementFinder.Selector.Basic
import ElementFinder.Selector.Fault
import ElementFinder.Value.Written

/-!
# Reading selectors from data

A text stands for a selector of that text. A mapping gives the fields; entries without a value are
skipped, and an unknown key is a fault if the reading is strict. The other key for the text counts
only while the text itself is missing or empty. A mapping that holds itself would never end.
-/

namespace ElementFinder

def integerOfBytes? (bs : List UInt8) : Option Int :=
  if bs.any (128 ≤ ·) then none
  else Numeral.read? (String.ofList (bs.map fun b => Char.ofNat b.toNat))

/-- The integer that a value stands for: integers, doubles without their fraction, numerals. None for
a value that stands for no integer; a double without bound is too large. -/
def Value.toInteger : Value → Except Failure (Option Int)
  | .int n => .ok (some n)
  | .bool b => .ok (some (boolNumber b))
  | .float x =>
    match Binary.ofFloat? x with
    | some b => .ok (some b.truncate)
    | none => if x.isNaN then .ok none else .error .overflow
  | .text s => .ok (Numeral.read? s)
  | .bytes bs => .ok (integerOfBytes? bs)
  | _ => .ok none

/-- An integer field; a truth value is no integer here. -/
def readInteger (place : String) (v : Value) : Except Failure Int := do
  let found ← match v with
    | .bool _ => pure none
    | _ => v.toInteger
  match found with
  | some n => return n
  | none => throw ((SelectorFault.notInteger (← v.displayOrFail)).failure place)

/-- A field with a truth value. -/
def readBool (place : String) (v : Value) : Except Failure Bool := do
  match v with
  | .bool b => return b
  | _ => throw ((SelectorFault.notBool (← v.displayOrFail)).failure place)

/-- What a key of selector data is for. -/
inductive FieldKey where
  | text
  | id
  | width
  | height
  | tolerance
  | enabled
  | selected
  | focused
  | index
  | anchor (r : Relation)
  | descendants
  deriving DecidableEq, Repr

def FieldKey.ofName? (name : String) : Option FieldKey :=
  match name with
  | "text" => some .text
  | "id" => some .id
  | "width" => some .width
  | "height" => some .height
  | "tolerance" => some .tolerance
  | "enabled" => some .enabled
  | "selected" => some .selected
  | "focused" => some .focused
  | "index" => some .index
  | "containsDescendants" => some .descendants
  | _ => (Relation.ofName? name).map .anchor

/-- The kinds of entries in selector data. -/
inductive EntryKind where
  | field (key : FieldKey) (name : String)
  | textAlias
  | unknown

def EntryKind.ofKey (key : Value) : EntryKind :=
  match key with
  | .text name =>
    if name = ElementFinder.textAlias then .textAlias
    else match FieldKey.ofName? name with
      | some k => .field k name
      | none => .unknown
  | _ => .unknown

def Selector.changeCriteria (s : Selector) (f : Criteria → Criteria) : Selector :=
  { s with criteria := f s.criteria }

/-- Sets a field that is neither an anchor nor the descendants. -/
def readPlainField (s : Selector) (key : FieldKey) (place : String) (v : Value) :
    Except Failure Selector := do
  match key with
  | .text => let t ← v.writeOrFail; return s.changeCriteria fun c => { c with text := some t }
  | .id => let t ← v.writeOrFail; return s.changeCriteria fun c => { c with id := some t }
  | .width => let n ← readInteger place v; return s.changeCriteria fun c => { c with width := some n }
  | .height =>
    let n ← readInteger place v; return s.changeCriteria fun c => { c with height := some n }
  | .tolerance =>
    let n ← readInteger place v; return s.changeCriteria fun c => { c with tolerance := some n }
  | .enabled => let b ← readBool place v; return s.changeCriteria fun c => { c with enabled := some b }
  | .selected =>
    let b ← readBool place v; return s.changeCriteria fun c => { c with selected := some b }
  | .focused => let b ← readBool place v; return s.changeCriteria fun c => { c with focused := some b }
  | .index => let t ← v.writeOrFail; return { s with index := some t }
  | .anchor _ | .descendants => return s

def givesText (entries : List (Value × Value)) : Bool :=
  ((Value.field? "text" entries).map Value.truthy).getD false

namespace Selector

mutual

/-- The selector that a value stands for; `place` says where the value stands. -/
def ofValue (strict : Bool) (place : String) : Value → Except Failure Selector
  | .text t => .ok (ofText t)
  | .map entries => ofEntries strict place (givesText entries) entries {}
  | .enclosing true => .error .endless
  | v => .error ((SelectorFault.notSelector v.kindName).failure place)

/-- Adds the entries of a mapping to a selector, one after the other. -/
def ofEntries (strict : Bool) (place : String) (textGiven : Bool) :
    List (Value × Value) → Selector → Except Failure Selector
  | [], s => .ok s
  | (key, value) :: rest, s => do
    let s ← match EntryKind.ofKey key with
      | .textAlias =>
        if textGiven then pure s
        else do
          let t ← value.writeOrFail
          pure (s.changeCriteria fun c => { c with text := some t })
      | .unknown =>
        if strict then throw ((SelectorFault.unknownKey (← key.writeOrFail)).failure place)
        else pure s
      | .field k name =>
        if value.isNull then pure s
        else match k with
          | .anchor r => do
            let a ← ofValue strict (place ++ "." ++ name) value
            pure (s.withAnchor r a)
          | .descendants => do
            let ds ← ofItems strict (place ++ "." ++ name) value
            pure { s with descendants := ds }
          | _ => readPlainField s k (place ++ "." ++ name) value
    ofEntries strict place textGiven rest s

/-- The selectors of a list. -/
def ofItems (strict : Bool) (place : String) : Value → Except Failure (List Selector)
  | .list items => ofList strict place 0 items
  | .enclosing false => .error .endless
  | _ => .error (SelectorFault.notList.failure place)

/-- The selectors of some values, the first of which has the number `i`. -/
def ofList (strict : Bool) (place : String) (i : Nat) : List Value → Except Failure (List Selector)
  | [] => .ok []
  | v :: rest => do
    let s ← ofValue strict (place ++ "[" ++ toString i ++ "]") v
    return s :: (← ofList strict place (i + 1) rest)

end

end Selector

end ElementFinder

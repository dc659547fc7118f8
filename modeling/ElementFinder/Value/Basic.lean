import ElementFinder.Number.Basic
import ElementFinder.Value.Time

/-!
# Data values

The values that selector files, object maps, settings and server answers are made of. A mapping
keeps its entries in the order in which their keys first came. Where a collection is in itself, there is
a reference to the enclosing collection; whether that is a mapping is all that is asked of it.
-/

namespace ElementFinder

/-- A data value. -/
inductive Value where
  | null
  | bool (b : Bool)
  | int (n : Int)
  | float (x : Float)
  | text (s : String)
  | bytes (bs : List UInt8)
  | date (d : Date)
  | moment (m : Moment)
  | list (items : List Value)
  | pair (first second : Value)
  | set (items : List Value)
  | map (entries : List (Value × Value))
  | setting (timeout : Value)
  | enclosing (isMap : Bool)
  deriving Inhabited

namespace Value

def isNull : Value → Bool
  | .null => true
  | _ => false

def boolNumber (b : Bool) : Int := if b then 1 else 0

/-- The number of a value: truth values count as zero and one. -/
def numeric? : Value → Option Number
  | .bool b => some (.whole (boolNumber b))
  | .int n => some (.whole n)
  | .float x => some (.real x)
  | _ => none

mutual

/-- Two values are the same key: numbers by their number, collections item by item. -/
def sameKey : Value → Value → Bool
  | .null, .null => true
  | .text a, .text b => a == b
  | .bytes a, .bytes b => a == b
  | .date a, .date b => a == b
  | .moment a, .moment b => a.same b
  | .pair a b, .pair c d => sameKey a c && sameKey b d
  | .list as, .list bs => sameKeys as bs
  | .setting a, .setting b => sameKey a b
  | a, b => match a.numeric?, b.numeric? with
    | some x, some y => x.same y
    | _, _ => false

/-- Two lists hold the same keys in the same order. -/
def sameKeys : List Value → List Value → Bool
  | [], [] => true
  | a :: as, b :: bs => sameKey a b && sameKeys as bs
  | _, _ => false

end

def isKey : Value → Bool
  | .list _ | .set _ | .map _ | .setting _ | .enclosing _ => false
  | .pair a b => a.isKey && b.isKey
  | _ => true

/-- The entry of a key. -/
def lookup (key : Value) (entries : List (Value × Value)) : Option Value :=
  (entries.find? fun e => e.1.sameKey key).map (·.2)

/-- The entry of a text key. -/
def field? (name : String) (entries : List (Value × Value)) : Option Value :=
  lookup (.text name) entries

/-- Sets the entry of a key: an old entry keeps its key and its place. -/
def put (key value : Value) : List (Value × Value) → List (Value × Value)
  | [] => [(key, value)]
  | (k, v) :: rest => if k.sameKey key then (k, value) :: rest else (k, v) :: put key value rest

def ofEntries (entries : List (Value × Value)) : List (Value × Value) :=
  entries.foldl (fun acc e => put e.1 e.2 acc) []

def kindName : Value → String
  | .null => "NoneType"
  | .bool _ => "bool"
  | .int _ => "int"
  | .float _ => "float"
  | .text _ => "str"
  | .bytes _ => "bytes"
  | .date _ => "date"
  | .moment _ => "datetime"
  | .list _ => "list"
  | .pair _ _ => "tuple"
  | .set _ => "set"
  | .map _ => "dict"
  | .setting _ => "TimeoutSettings"
  | .enclosing isMap => if isMap then "dict" else "list"

/-- The value counts as true: neither null, false, zero nor empty. -/
def truthy : Value → Bool
  | .null => false
  | .bool b => b
  | .int n => n != 0
  | .float x => x != 0.0
  | .text s => !s.isEmpty
  | .bytes bs => !bs.isEmpty
  | .list items => !items.isEmpty
  | .set items => !items.isEmpty
  | .map entries => !entries.isEmpty
  | .date _ | .moment _ | .pair _ _ | .setting _ | .enclosing _ => true

end Value

end ElementFinder

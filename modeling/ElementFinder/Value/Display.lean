import ElementFinder.Number.Decimal
import ElementFinder.Number.Numeral
import ElementFinder.Value.Basic

/-!
# Written forms of data values

`display` is the form a value has inside a message or a collection, with texts in quotes; `write` is
the form it has on its own, where a text stands for itself. Neither exists for a value that holds an
integer beyond the digit limit.
-/

namespace ElementFinder.Value

mutual

/-- The form of a value inside a message or a collection. -/
def display : Value → Except NumeralFault String
  | .null => .ok "None"
  | .bool b => .ok (if b then "True" else "False")
  | .int n => Numeral.write n
  | .float x => .ok (Decimal.text x)
  | .text s => .ok (Text.quoted s)
  | .bytes bs => .ok (Text.quotedBytes bs)
  | .date d => .ok d.display
  | .moment m => .ok m.display
  | .list items => (displayItems items).map fun ds => "[" ++ Text.joined ", " ds ++ "]"
  | .pair a b => do return "(" ++ (← display a) ++ ", " ++ (← display b) ++ ")"
  | .set items => (displayItems items).map fun ds =>
    if ds.isEmpty then "set()" else "\x7b" ++ Text.joined ", " ds ++ "\x7d"
  | .map entries => (displayEntries entries).map fun ds => "\x7b" ++ Text.joined ", " ds ++ "\x7d"
  | .enclosing isMap => .ok (if isMap then "\x7b...\x7d" else "[...]")
  | .setting t => (display t).map fun d => "TimeoutSettings(timeout=" ++ d ++ ")"

def displayItems : List Value → Except NumeralFault (List String)
  | [] => .ok []
  | v :: rest => do return (← display v) :: (← displayItems rest)

def displayEntries : List (Value × Value) → Except NumeralFault (List String)
  | [] => .ok []
  | (k, v) :: rest => do
    return ((← display k) ++ ": " ++ (← display v)) :: (← displayEntries rest)

end

/-- The form of a value on its own. -/
def write : Value → Except NumeralFault String
  | .text s => .ok s
  | .date d => .ok d.text
  | .moment m => .ok m.text
  | v => display v

end ElementFinder.Value

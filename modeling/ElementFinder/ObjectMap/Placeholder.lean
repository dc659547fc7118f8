import ElementFinder.Selector.Read

/-!
# Placeholders

A placeholder is a name in braces after a dollar sign. It stands for the written value of a variable;
what is put in is not looked at again, and a placeholder without a variable stays as it is.
-/

namespace ElementFinder.Placeholder

def isNameStart (c : Char) : Bool := c.isAlpha || c == '_'

def isNameChar (c : Char) : Bool := c.isAlphanum || c == '_'

/-- The name of a placeholder after its dollar sign and brace, and the text behind it. -/
def nameAt? (cs : List Char) : Option (List Char × List Char) :=
  match cs with
  | [] => none
  | c :: _ =>
    if !isNameStart c then none
    else match cs.dropWhile isNameChar with
      | '\x7d' :: rest => some (cs.takeWhile isNameChar, rest)
      | _ => none

/-- The placeholder at the front of a text, and the text behind it. -/
def at? (cs : List Char) : Option (List Char × List Char) :=
  match cs with
  | '$' :: '\x7b' :: rest => nameAt? rest
  | _ => none

/-- A piece of a text: a character of its own, or a placeholder. -/
inductive Piece where
  | char (c : Char)
  | named (name : String)
  deriving DecidableEq, Repr

def pieces : Nat → List Char → List Piece
  | 0, _ => []
  | _, [] => []
  | fuel + 1, c :: rest =>
    match at? (c :: rest) with
    | some (name, behind) => .named (String.ofList name) :: pieces fuel behind
    | none => .char c :: pieces fuel rest

def Piece.write : Piece → String
  | .char c => c.toString
  | .named name => "$\x7b" ++ name ++ "\x7d"

/-- The binding of a name; only a mapping has bindings. -/
def valueOf? (bindings : Value) (name : String) : Except Failure (Option Value) :=
  match bindings with
  | .map entries => .ok (Value.field? name entries)
  | _ => .error .wrongType

/-- What a piece becomes. -/
def Piece.fill (bindings : Value) (p : Piece) : Except Failure String := do
  match p with
  | .char _ => return p.write
  | .named name =>
    match ← valueOf? bindings name with
    | some v => v.writeOrFail
    | none => return p.write

def fillText (bindings : Value) (text : String) : Except Failure String := do
  let cs := text.toList
  return String.join (← (pieces cs.length cs).mapM (Piece.fill bindings))

mutual

/-- A value with the placeholders in all its texts filled in; keys stay as they are. In a collection that
holds itself the texts never end. -/
def fill (bindings : Value) : Value → Except Failure Value
  | .text t => (fillText bindings t).map .text
  | .list items => (fillItems bindings items).map .list
  | .map entries => (fillEntries bindings entries).map .map
  | .enclosing _ => .error .endless
  | v => .ok v

def fillItems (bindings : Value) : List Value → Except Failure (List Value)
  | [] => .ok []
  | v :: rest => do
    let v ← fill bindings v
    return v :: (← fillItems bindings rest)

/-- Entries with the placeholders of their values filled in. -/
def fillEntries (bindings : Value) :
    List (Value × Value) → Except Failure (List (Value × Value))
  | [] => .ok []
  | (k, v) :: rest => do
    let v ← fill bindings v
    return (k, v) :: (← fillEntries bindings rest)

end

end ElementFinder.Placeholder

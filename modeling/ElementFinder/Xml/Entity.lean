import ElementFinder.Xml.Fault
import ElementFinder.Xml.Token

/-!
# Entities and attribute values

The entities that a document declares, and the value of an attribute: references are replaced, white
space becomes single spaces. An entity inside another one is replaced too, but never inside itself.
-/

namespace ElementFinder.Xml

/-- A declared entity: its text, if it is given in the document, and whether it names outside data. -/
structure Entity where
  name : List Char
  text : Option (List Char)
  binary : Bool := false

/-- A default for an attribute: its element, its name, its value if it has one, and whether the
value is plain text. -/
structure AttributeRule where
  element : List Char
  key : List Char
  plainText : Bool
  value : Option (List Char)

/-- What a document declares: entities, attribute rules, whether it refers to declarations outside,
whether it says that it stands alone, and whether declarations still count. -/
structure Declarations where
  entities : List Entity := []
  rules : List AttributeRule := []
  refersOutside : Bool := false
  standalone : Bool := false
  counting : Bool := true

namespace Declarations

def entity? (d : Declarations) (name : List Char) : Option Entity :=
  d.entities.find? fun e => e.name == name

/-- Every entity has to be declared in the document. -/
def isClosed (d : Declarations) : Bool := !d.refersOutside || d.standalone

/-- The attribute is declared with a value that is not plain text. -/
def isTokenized (d : Declarations) (element key : List Char) : Bool :=
  match d.rules.find? fun r => r.element == element && r.key == key with
  | some r => !r.plainText
  | none => false

/-- The defaults for the attributes of an element: of the rules for an attribute the first counts. -/
def defaults (d : Declarations) (element : List Char) : List (List Char × List Char) :=
  (d.rules.filter fun r => r.element == element).foldl
    (fun acc r => if acc.any fun e => e.1 == r.key then acc else acc ++ [(r.key, r.value)]) []
    |>.filterMap fun (e : List Char × Option (List Char)) => e.2.map fun v => (e.1, v)

end Declarations

def numberedChar? (n : Nat) : Option Char :=
  if 0x110000 ≤ n ∨ (0xD800 ≤ n ∧ n ≤ 0xDFFF) then none
  else if isForbidden (Char.ofNat n) then none
  else some (Char.ofNat n)

def plainEntity? (name : List Char) : Option Char :=
  match String.ofList name with
  | "lt" => some '<'
  | "gt" => some '>'
  | "amp" => some '&'
  | "quot" => some '"'
  | "apos" => some '\x27'
  | _ => none

/-- A fault inside a value: a fault that shows its own place, or one that shows the place of the
whole. -/
abbrev ValueFault := Fault × Option (List Char)

/-- Adds a space to a value held back to front; in a tokenized value spaces do not pile up. -/
def addSpace (tokenized : Bool) (done : List Char) : List Char :=
  if tokenized && (done.isEmpty || done.head? == some ' ') then done else ' ' :: done

/-- The value that a written text stands for. The characters so far are held back to front;
`replace` adds the text of an entity to them. -/
def valueChars (tokenized : Bool)
    (replace : List Char → List Char → Except ValueFault (List Char)) :
    Nat → List Char → List Char → Except ValueFault (List Char)
  | 0, _, done => .ok done
  | _ + 1, [], done => .ok done
  | fuel + 1, c :: rest, done =>
    let more := valueChars tokenized replace fuel
    if c = '&' then
      match scanReference rest with
      | .error (.invalid place) => .error (.invalidToken, some place)
      | .error .unfinished => .error (.invalidToken, some (c :: rest))
      | .ok (.number n, after) =>
        match numberedChar? n with
        | none => .error (.badCharacterNumber, some (c :: rest))
        | some d =>
          if d = ' ' then more after (addSpace tokenized done) else more after (d :: done)
      | .ok (.entity name, after) =>
        match plainEntity? name with
        | some d => more after (d :: done)
        | none =>
          match replace name done with
          | .error (fault, some _) => .error (fault, some (c :: rest))
          | .error (fault, none) => .error (fault, none)
          | .ok done => more after done
    else if c = '<' then .error (.invalidToken, some (c :: rest))
    else if c = '\r' then
      match rest with
      | '\n' :: after => more after (addSpace tokenized done)
      | _ => more rest (addSpace tokenized done)
    else if isSpace c then more rest (addSpace tokenized done)
    else if isForbidden c then .error (.invalidToken, some (c :: rest))
    else more rest (c :: done)

/-- The value without the spaces that a tokenized value may not end with. -/
def finishValue (tokenized : Bool) (done : List Char) : List Char :=
  let done := if tokenized && done.head? == some ' ' then done.drop 1 else done
  done.reverse

/-- Adds the text of an entity to a value; entities inside entities go down to a depth. A fault
deep inside shows the place of the whole, but for the entity itself. -/
def replaceEntity (d : Declarations) (tokenized : Bool) (opened : List (List Char)) :
    Nat → List Char → List Char → Except ValueFault (List Char)
  | 0, _, _ => .error (.recursiveEntity, some [])
  | depth + 1, name, done =>
    match d.entity? name with
    | none => if d.isClosed then .error (.undefinedEntity, none) else .ok done
    | some e =>
      if opened.contains name then .error (.recursiveEntity, some [])
      else if e.binary then .error (.binaryEntity, some [])
      else match e.text with
        | none => .error (.externalEntityInAttribute, some [])
        | some text =>
          let inner := replaceEntity d tokenized (name :: opened) depth
          match valueChars tokenized inner (text.length + 1) text done with
          | .ok done => .ok done
          | .error (fault, _) => .error (fault, none)

/-- The value between two marks, where `text` starts behind the first of them. A fault that shows
its own place shows it in `text`. -/
def readValue (d : Declarations) (opened : List (List Char)) (tokenized : Bool) (mark : Char)
    (text : List Char) : Except ValueFault (List Char) :=
  let written := text.takeWhile (· != mark)
  let replace := replaceEntity d tokenized opened (d.entities.length + 1)
  match valueChars tokenized replace (written.length + 1) written [] with
  | .ok done => .ok (finishValue tokenized done)
  | .error (fault, place) =>
    .error (fault, place.map fun rest => text.drop (written.length - rest.length))

end ElementFinder.Xml

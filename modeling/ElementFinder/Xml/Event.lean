import ElementFinder.Xml.Entity

/-!
# Events of a page source

The opening and closing of elements, in the order of the text. The name of an element is the part
after its prefix; the name of a prefixed attribute shows its namespace.
-/

namespace ElementFinder.Xml

/-- An element begins or ends. -/
inductive Event where
  | opened (name : String) (attributes : List (String × String))
  | closed
  deriving DecidableEq, Repr

abbrev Namespaces := List (List Char × List Char)

/-- The prefix of a name, if it has one, and the rest of the name. -/
def splitPrefix (name : List Char) : Option (List Char) × List Char :=
  match name.dropWhile (· != ':') with
  | [] => (none, name)
  | _ :: rest => (some (name.takeWhile (· != ':')), rest)

/-- The prefix that an attribute declares: none if it is no declaration, the empty prefix for the
namespace of names without one. -/
def declaredPrefix? (name : List Char) : Option (List Char) :=
  if name = "xmlns".toList then some []
  else match splitPrefix name with
    | (some p, rest) => if p = "xmlns".toList then some rest else none
    | (none, _) => none

def xmlNamespace : List Char := "http://www.w3.org/XML/1998/namespace".toList

def declarationNamespace : List Char := "http://www.w3.org/2000/xmlns/".toList

/-- Declares a prefix; the reserved prefixes and namespaces are protected. -/
def Namespaces.declare (ns : Namespaces) (p uri : List Char) : Except Fault Namespaces :=
  if uri.isEmpty && !p.isEmpty then .error .undeclaredPrefix
  else if p = "xmlns".toList then .error .reservedDeclarationPrefix
  else if uri.contains '\x7d' then .error .malformed
  else if p = "xml".toList ∧ uri ≠ xmlNamespace then .error .reservedXmlPrefix
  else if p ≠ "xml".toList ∧ uri = xmlNamespace then .error .reservedNamespace
  else if uri = declarationNamespace then .error .reservedNamespace
  else .ok ((p, uri) :: ns)

/-- The namespace of a prefix. -/
def Namespaces.find (ns : Namespaces) (p : List Char) : Except Fault (List Char) :=
  match ns.find? fun e => e.1 == p with
  | some e => .ok e.2
  | none => .error .unboundPrefix

/-- An element that is open: its name and the namespaces around it. -/
structure Frame where
  name : List Char
  outside : Namespaces

/-- How far the events have come: the open elements, the namespaces in force, and the events back to
front. -/
structure Progress where
  frames : List Frame := []
  namespaces : Namespaces := [("xml".toList, xmlNamespace)]
  events : List Event := []

/-- The attributes of a tag as far as they are known: names taken, the namespaces, and names with
values back to front. -/
structure TagProgress where
  taken : List (List Char) := []
  namespaces : Namespaces
  values : List (List Char × List Char) := []

/-- Adds an attribute, which may declare a prefix. -/
def TagProgress.add (t : TagProgress) (name value : List Char) : Except Fault TagProgress :=
  match declaredPrefix? name with
  | some p => do
    return { t with taken := name :: t.taken, namespaces := ← t.namespaces.declare p value }
  | none => .ok { t with taken := name :: t.taken, values := (name, value) :: t.values }

/-- Adds the attributes of a tag as they are written. A fault without a place of its own shows the
tag. -/
def addWritten (d : Declarations) (opened : List (List Char)) (element tagRest : List Char) :
    List WrittenAttribute → TagProgress → Except Stop TagProgress
  | [], t => .ok t
  | a :: more, t =>
    if t.taken.contains a.name then .error ⟨.duplicateAttribute, a.nameRest⟩
    else match readValue d opened (d.isTokenized element a.name) a.mark a.valueRest with
      | .error (fault, place) => .error ⟨fault, place.getD tagRest⟩
      | .ok value =>
        match t.add a.name value with
        | .error fault => .error ⟨fault, tagRest⟩
        | .ok t => addWritten d opened element tagRest more t

def addDefaults : List (List Char × List Char) → TagProgress → Except Fault TagProgress
  | [], t => .ok t
  | (name, value) :: more, t =>
    if t.taken.contains name then addDefaults more t
    else match t.add name value with
      | .error fault => .error fault
      | .ok t => addDefaults more t

/-- The attributes with their namespaces; two names that mean the same are a fault. -/
def expandNames (ns : Namespaces) :
    List (List Char × List Char) → List (List Char) → Except Fault (List (String × String))
  | [], _ => .ok []
  | (name, value) :: more, seen =>
    match splitPrefix name with
    | (none, _) => do
      return (String.ofList name, String.ofList value) :: (← expandNames ns more seen)
    | (some p, rest) => do
      let full := '\x7b' :: (← ns.find p) ++ '\x7d' :: rest
      if seen.contains full then throw .duplicateAttribute
      return (String.ofList full, String.ofList value) :: (← expandNames ns more (full :: seen))

def Progress.openTag (s : Progress) (d : Declarations) (opened : List (List Char))
    (tagRest : List Char) (tag : WrittenTag) : Except Stop Progress :=
  match addWritten d opened tag.name tagRest tag.attributes { namespaces := s.namespaces } with
  | .error stop => .error stop
  | .ok t =>
    let named : Except Fault (Namespaces × List (String × String) × List Char) := do
      let t ← addDefaults (d.defaults tag.name) t
      let attributes ← expandNames t.namespaces t.values.reverse []
      let (p, rest) := splitPrefix tag.name
      if let some p := p then let _ ← t.namespaces.find p
      return (t.namespaces, attributes, rest)
    match named with
    | .error fault => .error ⟨fault, tagRest⟩
    | .ok (namespaces, attributes, rest) =>
      .ok { frames := ⟨tag.name, s.namespaces⟩ :: s.frames
            namespaces
            events := .opened (String.ofList rest) attributes :: s.events }

def Progress.closeTag (s : Progress) : Progress :=
  match s.frames with
  | [] => s
  | f :: frames => { frames, namespaces := f.outside, events := .closed :: s.events }

/-- How a run over content ends: the outermost element is closed, a fault stops it, or the text
ends. -/
inductive Ending where
  | rootClosed (rest : List Char)
  | stopped (stop : Stop)
  | textEnds

def skipSection : List Char → Except Stop (List Char)
  | [] => .error ⟨.unclosedSection, []⟩
  | ']' :: ']' :: '>' :: rest => .ok rest
  | [']', ']'] => .error ⟨.unclosedSection, [']', ']']⟩
  | [']'] => .error ⟨.unclosedSection, [']']⟩
  | c :: rest => if isForbidden c then .error ⟨.invalidToken, c :: rest⟩ else skipSection rest

/-- The entity that a reference in content stands for; none if it stands for a character. -/
def contentEntity (d : Declarations) (opened : List (List Char)) (name : List Char) :
    Except Fault (Option (List Char)) :=
  let unknown := Fault.unknownEntity ("&" ++ String.ofList name ++ ";")
  if (plainEntity? name).isSome then .ok none
  else match d.entity? name with
    | none => .error (if d.isClosed then .undefinedEntity else unknown)
    | some e =>
      if opened.contains name then .error .recursiveEntity
      else if e.binary then .error .binaryEntity
      else match e.text with
        | none => .error unknown
        | some text => .ok (some text)

/-- Runs over content. `base` is the number of elements that are open around it; `expand` runs over
the text of an entity. -/
def runContent (d : Declarations) (opened : List (List Char)) (base : Nat)
    (expand : List Char → List Char → Progress → Progress × Option Fault) :
    Nat → List Char → Progress → Progress × Ending
  | 0, _, s => (s, .textEnds)
  | _ + 1, [], s => (s, .textEnds)
  | fuel + 1, text, s =>
    let more := runContent d opened base expand fuel
    let stop (fault : Fault) := (s, Ending.stopped ⟨fault, text⟩)
    if base = 0 ∧ text = ['\r'] then stop .noElement
    else match scanContent text with
      | .error (.invalid rest) => (s, .stopped ⟨.invalidToken, rest⟩)
      | .error .unfinished => stop .unclosedToken
      | .ok (.data, rest) => more rest s
      | .ok (.comment, rest) => more rest s
      | .ok (.instruction .other, rest) => more rest s
      | .ok (.instruction .declaration, _) => stop .misplacedDeclaration
      | .ok (.plainSection, rest) =>
        match skipSection rest with
        | .ok rest => more rest s
        | .error e => (s, .stopped e)
      | .ok (.reference (.number n), rest) =>
        if (numberedChar? n).isSome then more rest s else stop .badCharacterNumber
      | .ok (.reference (.entity name), rest) =>
        match contentEntity d opened name with
        | .error fault => stop fault
        | .ok none => more rest s
        | .ok (some inner) =>
          match expand name inner s with
          | (s, none) => more rest s
          | (s, some fault) => (s, .stopped ⟨fault, text⟩)
      | .ok (.startTag tag, rest) =>
        match s.openTag d opened text tag with
        | .error e => (s, .stopped e)
        | .ok s =>
          let s := if tag.isEmpty then s.closeTag else s
          if s.frames.isEmpty then (s, .rootClosed rest) else more rest s
      | .ok (.endTag name, rest) =>
        if s.frames.length = base then stop .asynchronousEntity
        else if (s.frames.head?.map (·.name)) ≠ some name then
          (s, .stopped ⟨.mismatchedTag, text.drop 2⟩)
        else
          let s := s.closeTag
          if s.frames.isEmpty then (s, .rootClosed rest) else more rest s

/-- Runs over the text of an entity; entities inside entities go down to a depth. -/
def runEntity (d : Declarations) : Nat → List (List Char) → List Char → List Char → Progress →
    Progress × Option Fault
  | 0, _, _, _, s => (s, some .recursiveEntity)
  | depth + 1, opened, name, text, s =>
    let base := s.frames.length
    match runContent d (name :: opened) base (runEntity d depth (name :: opened))
        (text.length + 1) text s with
    | (s, .stopped stop) => (s, some stop.fault)
    | (s, _) => (s, if s.frames.length = base then none else some .asynchronousEntity)

end ElementFinder.Xml

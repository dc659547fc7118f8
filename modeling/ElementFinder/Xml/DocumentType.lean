import ElementFinder.Xml.Event
import ElementFinder.Xml.Prolog

/-!
# The document type

The grammar of what stands before the first element, and the entities and attribute defaults that
are declared there. References to outside declarations are not followed; after one of them the
declarations no longer count, unless the document says that it stands alone.
-/

namespace ElementFinder.Xml

/-- A place in the grammar of what stands before the first element. -/
inductive Stage where
  | start
  | beforeType
  | afterType
  | typeName
  | typeKind
  | typePublic
  | typeSystem
  | typeBody
  | typeEnd
  | inside
  | entityName
  | parameterName
  | entityKind (parameter : Bool)
  | entityPublic (parameter : Bool)
  | entitySystem (parameter : Bool)
  | entityEnd (parameter : Bool)
  | entityData
  | declarationEnd
  | notationName
  | notationKind
  | notationPublic
  | notationSystem
  | notationEnd
  | listElement
  | listAttribute
  | listType
  | enumValue
  | enumNext
  | listNotation
  | notationValue
  | notationNext
  | listDefault
  | fixedDefault
  | elementName
  | contentKind
  | groupStart
  | mixedNext
  | mixedName
  | mixedEnd
  | groupItem
  | groupNext
  deriving DecidableEq

/-- What a token does besides leading on. -/
inductive Act where
  | nothing
  | startElement
  | documentDeclaration
  | refersOutside
  | refersToParameter
  | typePublicId
  | publicId
  | nameEntity (name : List Char)
  | nameParameter
  | entityText
  | entityOutside
  | entityBinary
  | nameElement (name : List Char)
  | nameAttribute (name : List Char)
  | attributeType (plainText : Bool)
  | noDefault
  | giveDefault
  | openGroup
  | closeGroup
  | connect (comma : Bool)

/-- The keyword is the given one. -/
def isWord (chars : List Char) (keyword : String) : Bool := chars == keyword.toList

def tokenizedTypes : List String :=
  ["ID", "IDREF", "IDREFS", "ENTITY", "ENTITIES", "NMTOKEN", "NMTOKENS"]

/-- Where a token leads and what it does; none if the grammar has no place for it. `level` is the
number of open groups of an element declaration. -/
def Stage.next (level : Nat) : Stage → PrologToken → Option (Stage × Act)
  | .start, .byteOrderMark => some (.start, .nothing)
  | .start, .instruction .declaration => some (.beforeType, .documentDeclaration)
  | .start, .space | .beforeType, .space => some (.beforeType, .nothing)
  | .start, .comment | .beforeType, .comment => some (.beforeType, .nothing)
  | .start, .instruction .other | .beforeType, .instruction .other => some (.beforeType, .nothing)
  | .start, .element | .beforeType, .element | .afterType, .element => some (.afterType, .startElement)
  | .start, .declaration k | .beforeType, .declaration k =>
    if isWord k "DOCTYPE" then some (.typeName, .nothing) else none
  | .inside, .declaration k =>
    if isWord k "ENTITY" then some (.entityName, .nothing)
    else if isWord k "ATTLIST" then some (.listElement, .nothing)
    else if isWord k "ELEMENT" then some (.elementName, .nothing)
    else if isWord k "NOTATION" then some (.notationName, .nothing)
    else none
  | .inside, .comment => some (.inside, .nothing)
  | .afterType, .comment => some (.afterType, .nothing)
  | .afterType, .instruction .other => some (.afterType, .nothing)
  | s, .space => some (s, .nothing)
  | .typeName, .name _ | .typeName, .prefixedName _ => some (.typeKind, .nothing)
  | .typeKind, .openBracket | .typeBody, .openBracket => some (.inside, .nothing)
  | .typeKind, .close | .typeBody, .close | .typeEnd, .close => some (.afterType, .nothing)
  | .typeKind, .name k =>
    if isWord k "SYSTEM" then some (.typeSystem, .nothing)
    else if isWord k "PUBLIC" then some (.typePublic, .nothing)
    else none
  | .typePublic, .literal _ => some (.typeSystem, .typePublicId)
  | .typeSystem, .literal _ => some (.typeBody, .refersOutside)
  | .inside, .closeBracket => some (.typeEnd, .nothing)
  | .inside, .instruction .other => some (.inside, .nothing)
  | .inside, .parameterReference => some (.inside, .refersToParameter)
  | .entityName, .percent => some (.parameterName, .nothing)
  | .entityName, .name n => some (.entityKind false, .nameEntity n)
  | .parameterName, .name _ => some (.entityKind true, .nameParameter)
  | .entityKind p, .name k =>
    if isWord k "SYSTEM" then some (.entitySystem p, .nothing)
    else if isWord k "PUBLIC" then some (.entityPublic p, .nothing)
    else none
  | .entityKind _, .literal _ => some (.declarationEnd, .entityText)
  | .entityPublic p, .literal _ => some (.entitySystem p, .publicId)
  | .entitySystem p, .literal _ => some (.entityEnd p, .entityOutside)
  | .entityEnd _, .close => some (.inside, .nothing)
  | .entityEnd false, .name k => if isWord k "NDATA" then some (.entityData, .nothing) else none
  | .entityData, .name _ => some (.declarationEnd, .entityBinary)
  | .declarationEnd, .close => some (.inside, .nothing)
  | .notationName, .name _ => some (.notationKind, .nothing)
  | .notationKind, .name k =>
    if isWord k "SYSTEM" then some (.notationSystem, .nothing)
    else if isWord k "PUBLIC" then some (.notationPublic, .nothing)
    else none
  | .notationPublic, .literal _ => some (.notationEnd, .publicId)
  | .notationSystem, .literal _ => some (.declarationEnd, .nothing)
  | .notationEnd, .literal _ => some (.declarationEnd, .nothing)
  | .notationEnd, .close => some (.inside, .nothing)
  | .listElement, .name n | .listElement, .prefixedName n => some (.listAttribute, .nameElement n)
  | .listAttribute, .close => some (.inside, .nothing)
  | .listAttribute, .name n | .listAttribute, .prefixedName n => some (.listType, .nameAttribute n)
  | .listType, .name k =>
    if isWord k "CDATA" then some (.listDefault, .attributeType true)
    else if tokenizedTypes.any (isWord k) then some (.listDefault, .attributeType false)
    else if isWord k "NOTATION" then some (.listNotation, .nothing)
    else none
  | .listType, .openParen => some (.enumValue, .nothing)
  | .enumValue, .nameToken _ | .enumValue, .name _ | .enumValue, .prefixedName _ =>
    some (.enumNext, .attributeType false)
  | .enumNext, .closeParen .once | .notationNext, .closeParen .once => some (.listDefault, .nothing)
  | .enumNext, .bar => some (.enumValue, .nothing)
  | .listNotation, .openParen => some (.notationValue, .nothing)
  | .notationValue, .name _ => some (.notationNext, .attributeType false)
  | .notationNext, .bar => some (.notationValue, .nothing)
  | .listDefault, .hashName k =>
    if isWord k "IMPLIED" then some (.listAttribute, .noDefault)
    else if isWord k "REQUIRED" then some (.listAttribute, .noDefault)
    else if isWord k "FIXED" then some (.fixedDefault, .nothing)
    else none
  | .listDefault, .literal _ | .fixedDefault, .literal _ => some (.listAttribute, .giveDefault)
  | .elementName, .name _ | .elementName, .prefixedName _ => some (.contentKind, .nothing)
  | .contentKind, .name k =>
    if isWord k "EMPTY" || isWord k "ANY" then some (.declarationEnd, .nothing) else none
  | .contentKind, .openParen => some (.groupStart, .openGroup)
  | .groupStart, .hashName k => if isWord k "PCDATA" then some (.mixedNext, .nothing) else none
  | .groupStart, .openParen | .groupItem, .openParen => some (.groupItem, .openGroup)
  | .groupStart, .name _ | .groupStart, .prefixedName _ | .groupStart, .markedName _
  | .groupItem, .name _ | .groupItem, .prefixedName _ | .groupItem, .markedName _ =>
    some (.groupNext, .nothing)
  | .mixedNext, .closeParen .once | .mixedNext, .closeParen .anyNumber
  | .mixedEnd, .closeParen .anyNumber => some (.declarationEnd, .closeGroup)
  | .mixedNext, .bar | .mixedEnd, .bar => some (.mixedName, .nothing)
  | .mixedName, .name _ | .mixedName, .prefixedName _ => some (.mixedEnd, .nothing)
  | .groupNext, .closeParen _ =>
    some (if level ≤ 1 then .declarationEnd else .groupNext, .closeGroup)
  | .groupNext, .comma => some (.groupItem, .connect true)
  | .groupNext, .bar => some (.groupItem, .connect false)
  | _, _ => none

/-- What is known before the first element: the place in the grammar, the declarations so far, the
open groups with their connectors, and the entity, element and attribute that are being declared. -/
structure TypeProgress where
  stage : Stage := .start
  declarations : Declarations := {}
  groups : List (Option Bool) := []
  entity : Option (List Char) := none
  element : List Char := []
  key : List Char := []
  plainText : Bool := false

/-- A character that a public identifier may hold. -/
def isPublicIdChar (c : Char) : Bool :=
  c.isAlphanum || (" \r\n-\x27()+,./:=?;!*#@$_%".toList).contains c

/-- The text of an entity as it is declared: references by number are replaced, others stay. -/
def entityTextChars : Nat → List Char → List Char → Except (Fault × List Char) (List Char)
  | 0, _, done => .ok done.reverse
  | _ + 1, [], done => .ok done.reverse
  | fuel + 1, c :: rest, done =>
    let more := entityTextChars fuel
    if c = '&' then
      match scanReference rest with
      | .error (.invalid place) => .error (.invalidToken, place)
      | .error .unfinished => .error (.invalidToken, c :: rest)
      | .ok (.number n, after) =>
        match numberedChar? n with
        | none => .error (.badCharacterNumber, c :: rest)
        | some d => more after (d :: done)
      | .ok (.entity name, after) => more after (';' :: name.reverse ++ '&' :: done)
    else if c = '%' then
      match scanPercent rest with
      | .ok (.parameterReference, _) => .error (.parameterReference, c :: rest)
      | .ok (_, place) => .error (.invalidToken, place)
      | .error (.invalid place) => .error (.invalidToken, place)
      | .error .unfinished => .error (.invalidToken, c :: rest)
    else if c = '\r' then
      match rest with
      | '\n' :: after => more after ('\n' :: done)
      | _ => more rest ('\n' :: done)
    else if isForbidden c then .error (.invalidToken, c :: rest)
    else more rest (c :: done)

/-- A name with a value in the declaration of the document, each with the text from it on. -/
structure Setting where
  name : List Char
  nameRest : List Char
  value : List Char
  valueRest : List Char

def isSettingChar (c : Char) : Bool := c.isAlphanum || c == '.' || c == '-' || c == '_'

/-- The next setting in the declaration of the document, if there is one; else the place where it
breaks off. -/
def scanSetting (cs : List Char) : Except (List Char) (Option Setting × List Char) :=
  match cs with
  | [] => .ok (none, cs)
  | c :: _ =>
    if !isSpace c then .error cs
    else
      let start := cs.dropWhile isSpace
      let inName c := c.toNat < 0x80 && c != '=' && !isSpace c
      let name := start.takeWhile inName
      let after := start.dropWhile inName
      if start.isEmpty then .ok (none, cs)
      else match after.dropWhile isSpace with
        | '=' :: rest =>
          if name.isEmpty then .error after
          else match rest.dropWhile isSpace with
            | [] => .error []
            | mark :: valueRest =>
              if mark ≠ '"' ∧ mark ≠ '\x27' then .error (mark :: valueRest)
              else
                let value := valueRest.takeWhile isSettingChar
                match valueRest.dropWhile isSettingChar with
                | [] => .error []
                | d :: more =>
                  if d = mark then .ok (some ⟨name, start, value, valueRest⟩, more)
                  else .error (d :: more)
        | place => .error place

/-- Whether the declaration of the document says that it stands alone, or the place where the
declaration breaks off. The version comes first, then the encoding, then the word on standing
alone. -/
def readDocumentDeclaration (cs : List Char) : Except (List Char) Bool := do
  let (version, rest) ← scanSetting cs
  let some version := version | throw cs
  if version.name ≠ "version".toList then throw version.nameRest
  let (next, rest) ← scanSetting rest
  let some next := next | return false
  let (next, rest) ←
    if next.name = "encoding".toList then
      if next.value.head?.any Char.isAlpha then scanSetting rest else throw next.valueRest
    else pure (some next, rest)
  let some next := next | return false
  if next.name ≠ "standalone".toList then throw next.nameRest
  if next.value ≠ "yes".toList ∧ next.value ≠ "no".toList then throw next.valueRest
  let rest := rest.dropWhile isSpace
  if rest.isEmpty then return next.value = "yes".toList else throw rest

namespace TypeProgress

def declare (s : TypeProgress) (f : Declarations → Declarations) : TypeProgress :=
  { s with declarations := f s.declarations }

def changeEntity (s : TypeProgress) (f : Entity → Entity) : TypeProgress :=
  match s.entity with
  | none => s
  | some name => s.declare fun d =>
    { d with entities := d.entities.map fun e => if e.name == name then f e else e }

/-- Adds a rule for the attribute that is being declared. -/
def addRule (s : TypeProgress) (value : Option (List Char)) : TypeProgress :=
  s.declare fun d =>
    if d.counting then { d with rules := d.rules ++ [⟨s.element, s.key, s.plainText, value⟩] }
    else d

/-- Checks a public identifier that stands after a mark. -/
def checkPublicId (s : TypeProgress) (text : List Char) (content : List Char) :
    Except Stop TypeProgress :=
  let bad := content.dropWhile isPublicIdChar
  if bad.isEmpty then .ok s
  else .error ⟨.publicId, text.drop (1 + content.length - bad.length)⟩

/-- Does what a token asks for; `text` starts with the token and `rest` follows it. -/
def act (s : TypeProgress) (token : PrologToken) (text rest : List Char) :
    Act → Except Stop TypeProgress
  | .nothing | .startElement => .ok s
  | .documentDeclaration =>
    let inner := (text.drop 5).take (text.length - rest.length - 7)
    match readDocumentDeclaration inner with
    | .ok standalone => .ok (s.declare fun d => { d with standalone })
    | .error place => .error ⟨.malformedDeclaration, text.drop (5 + inner.length - place.length)⟩
  | .refersOutside => .ok (s.declare fun d => { d with refersOutside := true })
  | .refersToParameter =>
    .ok (s.declare fun d => { d with refersOutside := true, counting := d.standalone })
  | .typePublicId =>
    match token with
    | .literal content =>
      (s.declare fun d => { d with refersOutside := true }).checkPublicId text content
    | _ => .ok s
  | .publicId =>
    match token with
    | .literal content => s.checkPublicId text content
    | _ => .ok s
  | .nameEntity name =>
    if (plainEntity? name).isSome || !s.declarations.counting
        || (s.declarations.entity? name).isSome then .ok { s with entity := none }
    else .ok { s.declare fun d => { d with entities := d.entities ++ [⟨name, none, false⟩] }
      with entity := some name }
  | .nameParameter => .ok { s with entity := none }
  | .entityText =>
    match token with
    | .literal content =>
      if !s.declarations.counting then .ok s
      else match entityTextChars (content.length + 1) content [] with
        | .ok chars => .ok (s.changeEntity fun e => { e with text := some chars })
        | .error (fault, place) =>
          .error ⟨fault, text.drop (1 + content.length - place.length)⟩
    | _ => .ok s
  | .entityOutside => .ok s
  | .entityBinary =>
    .ok (if s.declarations.counting then s.changeEntity fun e => { e with binary := true } else s)
  | .nameElement name => .ok { s with element := name }
  | .nameAttribute name => .ok { s with key := name, plainText := false }
  | .attributeType plainText => .ok { s with plainText }
  | .noDefault => .ok (s.addRule none)
  | .giveDefault =>
    if !s.declarations.counting then .ok s
    else match readValue s.declarations [] (!s.plainText) (text.head?.getD '"') (text.drop 1) with
      | .ok value => .ok (s.addRule (some value))
      | .error (fault, place) => .error ⟨fault, place.getD text⟩
  | .openGroup => .ok { s with groups := none :: s.groups }
  | .closeGroup => .ok { s with groups := s.groups.drop 1 }
  | .connect comma =>
    match s.groups with
    | some other :: _ => if other = comma then .ok s else .error ⟨.malformed, text⟩
    | none :: outer => .ok { s with groups := some comma :: outer }
    | [] => .ok s

end TypeProgress

/-- The fault of a token that the grammar has no place for. -/
def misplaced : PrologToken → Fault
  | .parameterReference => .parameterReference
  | .instruction .declaration => .misplacedDeclaration
  | _ => .malformed

/-- Runs over what stands before the first element, up to its tag. -/
def runProlog : Nat → List Char → TypeProgress → Except Stop (Declarations × List Char)
  | 0, text, _ => .error ⟨.noElement, text⟩
  | fuel + 1, text, s =>
    if text.isEmpty then .error ⟨.noElement, text⟩
    else match scanProlog text with
      | .error (.invalid place) => .error ⟨.invalidToken, place⟩
      | .error .unfinished => .error ⟨.unclosedToken, text⟩
      | .ok (token, rest) =>
        match s.stage.next s.groups.length token with
        | none => .error ⟨misplaced token, text⟩
        | some (_, .startElement) => .ok (s.declarations, text)
        | some (stage, act) =>
          match s.act token text rest act with
          | .error stop => .error stop
          | .ok s => runProlog fuel rest { s with stage }

end ElementFinder.Xml

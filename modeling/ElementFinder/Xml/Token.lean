import ElementFinder.Text.Digit
import ElementFinder.Text.Ranges
import ElementFinder.Xml.NameTable

/-!
# Tokens of a page source

The tokens that element content is made of. A token is broken off at the first character that cannot
continue it, or is unfinished if the text ends first.
-/

namespace ElementFinder.Xml

def isSpace (c : Char) : Bool := c == ' ' || c == '\t' || c == '\n' || c == '\r'

/-- A character that no page source may hold. -/
def isForbidden (c : Char) : Bool :=
  (c.toNat < 32 && !isSpace c) || c.toNat == 0xFFFE || c.toNat == 0xFFFF

/-- A character that a name may begin with; the colon of a prefix is not among them. -/
def isNameStart (c : Char) : Bool :=
  if c.toNat < 0x80 then c.isAlpha || c == '_'
  else c.toNat < 0x10000 && Text.inRanges nameStartRanges c.toNat

def isNameChar (c : Char) : Bool :=
  if c.toNat < 0x80 then c.isAlphanum || c == '_' || c == '-' || c == '.'
  else isNameStart c || (c.toNat < 0x10000 && Text.inRanges nameInnerRanges c.toNat)

/-- How a token ends too soon: at a character that cannot continue it, or with the text. -/
inductive Broken where
  | invalid (rest : List Char)
  | unfinished

/-- A token with the text behind it. -/
abbrev Scan (α : Type) := Except Broken (α × List Char)

/-- A broken token at the given place. -/
def invalidAt {α : Type} (rest : List Char) : Scan α := .error (.invalid rest)

/-- A token that the end of the text cuts off. -/
def unfinished {α : Type} : Scan α := .error .unfinished

def scanCommentBody : List Char → Scan Unit
  | [] => unfinished
  | '-' :: '-' :: '>' :: rest => .ok ((), rest)
  | ['-', '-'] => unfinished
  | ['-'] => unfinished
  | '-' :: '-' :: c :: rest => invalidAt (c :: rest)
  | c :: rest => if isForbidden c then invalidAt (c :: rest) else scanCommentBody rest

def scanComment : List Char → Scan Unit
  | [] => unfinished
  | '-' :: rest => scanCommentBody rest
  | c :: rest => invalidAt (c :: rest)

def scanInstructionBody : List Char → Scan Unit
  | [] => unfinished
  | '?' :: '>' :: rest => .ok ((), rest)
  | ['?'] => unfinished
  | c :: rest => if isForbidden c then invalidAt (c :: rest) else scanInstructionBody rest

/-- What an instruction is: the declaration of the document, or another one. -/
inductive Instruction where
  | declaration
  | other
  deriving DecidableEq

/-- The kind of an instruction by its name; the reserved name counts in lower case only. -/
def instructionNamed? (name : List Char) : Option Instruction :=
  if name = ['x', 'm', 'l'] then some .declaration
  else if name.map Char.toLower = ['x', 'm', 'l'] then none
  else some .other

def scanInstruction (cs : List Char) : Scan Instruction :=
  match cs with
  | [] => unfinished
  | c :: _ =>
    if !isNameStart c then invalidAt cs
    else
      let after := cs.dropWhile isNameChar
      match after with
      | [] => unfinished
      | d :: rest =>
        if !(isSpace d || d == '?') then invalidAt after
        else match instructionNamed? (cs.takeWhile isNameChar) with
          | none => invalidAt after
          | some kind =>
            if d == '?' then
              match rest with
              | [] => unfinished
              | '>' :: more => .ok (kind, more)
              | _ => invalidAt rest
            else (scanInstructionBody rest).map fun r => (kind, r.2)

/-- A reference: to a character by number, or to an entity by name. -/
inductive Reference where
  | number (n : Nat)
  | entity (name : List Char)

/-- The digits of a character number up to the semicolon. -/
def scanNumber (base : Nat) (cs : List Char) : Scan Reference :=
  let isDigit c := (Text.digitValue? base c).isSome
  let ds := cs.takeWhile isDigit
  match cs.dropWhile isDigit with
  | [] => unfinished
  | c :: rest =>
    if c = ';' ∧ !ds.isEmpty then .ok (.number ((Text.numeral? base ds).getD 0), rest)
    else invalidAt (c :: rest)

def scanReference (cs : List Char) : Scan Reference :=
  match cs with
  | [] => unfinished
  | '#' :: 'x' :: rest => scanNumber 16 rest
  | '#' :: rest => scanNumber 10 rest
  | c :: _ =>
    if !isNameStart c then invalidAt cs
    else match cs.dropWhile isNameChar with
      | [] => unfinished
      | ';' :: rest => .ok (.entity (cs.takeWhile isNameChar), rest)
      | d :: rest => invalidAt (d :: rest)

def scanEndTag (cs : List Char) : Scan (List Char) :=
  match cs with
  | [] => unfinished
  | c :: _ =>
    if !isNameStart c then invalidAt cs
    else
      let inName c := isNameChar c || c == ':'
      let name := cs.takeWhile inName
      match cs.dropWhile inName with
      | [] => unfinished
      | '>' :: rest => .ok (name, rest)
      | d :: rest =>
        if !isSpace d then invalidAt (d :: rest)
        else match rest.dropWhile isSpace with
          | [] => unfinished
          | '>' :: more => .ok (name, more)
          | e :: more => invalidAt (e :: more)

/-- The opening of a section of plain characters, after the exclamation mark. -/
def scanSectionOpen : List Char → List Char → Scan Unit
  | [], rest => .ok ((), rest)
  | _ :: _, [] => unfinished
  | e :: es, c :: cs => if c = e then scanSectionOpen es cs else invalidAt (c :: cs)

/-- An attribute as it is written: its name, the text from the name on, its quotation mark, and the
text from its value on. -/
structure WrittenAttribute where
  name : List Char
  nameRest : List Char
  mark : Char
  valueRest : List Char

/-- A start tag as it is written. -/
structure WrittenTag where
  name : List Char
  attributes : List WrittenAttribute
  isEmpty : Bool

/-- How far a start tag has been read. -/
inductive TagStage where
  | name (colon : Bool)
  | nameAfterColon
  | blanks
  | attribute (colon : Bool) (start : List Char) (name : List Char)
  | attributeAfterColon (start : List Char) (name : List Char)
  | beforeEquals (start : List Char) (name : List Char)
  | afterEquals (start : List Char) (name : List Char)
  | value (mark : Char)
  | reference (mark : Char)
  | referenceName (mark : Char)
  | number (mark : Char)
  | decimal (mark : Char)
  | hexadecimalStart (mark : Char)
  | hexadecimal (mark : Char)
  | afterValue
  | slash

/-- A start tag. The name and the attributes read so far are held back to front. -/
def scanTag (stage : TagStage) (name : List Char) (done : List WrittenAttribute) :
    List Char → Scan WrittenTag
  | [] => unfinished
  | c :: rest =>
    let bad : Scan WrittenTag := invalidAt (c :: rest)
    let close : Scan WrittenTag := .ok (⟨name.reverse, done.reverse, false⟩, rest)
    match stage with
    | .name colon =>
      if isNameChar c then scanTag (.name colon) (c :: name) done rest
      else if c = ':' then
        if colon then bad else scanTag .nameAfterColon (c :: name) done rest
      else if isSpace c then scanTag .blanks name done rest
      else if c = '>' then close
      else if c = '/' then scanTag .slash name done rest
      else bad
    | .nameAfterColon =>
      if isNameStart c then scanTag (.name true) (c :: name) done rest else bad
    | .blanks =>
      if isNameStart c then scanTag (.attribute false (c :: rest) [c]) name done rest
      else if isSpace c then scanTag .blanks name done rest
      else if c = '>' then close
      else if c = '/' then scanTag .slash name done rest
      else bad
    | .attribute colon start att =>
      if isNameChar c then scanTag (.attribute colon start (c :: att)) name done rest
      else if c = ':' then
        if colon then bad else scanTag (.attributeAfterColon start (c :: att)) name done rest
      else if isSpace c then scanTag (.beforeEquals start att) name done rest
      else if c = '=' then scanTag (.afterEquals start att) name done rest
      else bad
    | .attributeAfterColon start att =>
      if isNameStart c then scanTag (.attribute true start (c :: att)) name done rest else bad
    | .beforeEquals start att =>
      if c = '=' then scanTag (.afterEquals start att) name done rest
      else if isSpace c then scanTag (.beforeEquals start att) name done rest
      else bad
    | .afterEquals start att =>
      if c = '"' ∨ c = '\x27' then
        scanTag (.value c) name (⟨att.reverse, start, c, rest⟩ :: done) rest
      else if isSpace c then scanTag (.afterEquals start att) name done rest
      else bad
    | .value mark =>
      if c = mark then scanTag .afterValue name done rest
      else if c = '&' then scanTag (.reference mark) name done rest
      else if c = '<' ∨ isForbidden c then bad
      else scanTag (.value mark) name done rest
    | .reference mark =>
      if isNameStart c then scanTag (.referenceName mark) name done rest
      else if c = '#' then scanTag (.number mark) name done rest
      else bad
    | .referenceName mark =>
      if isNameChar c then scanTag (.referenceName mark) name done rest
      else if c = ';' then scanTag (.value mark) name done rest
      else bad
    | .number mark =>
      if c = 'x' then scanTag (.hexadecimalStart mark) name done rest
      else if c.isDigit then scanTag (.decimal mark) name done rest
      else bad
    | .decimal mark =>
      if c.isDigit then scanTag (.decimal mark) name done rest
      else if c = ';' then scanTag (.value mark) name done rest
      else bad
    | .hexadecimalStart mark =>
      if (Text.digitValue? 16 c).isSome then scanTag (.hexadecimal mark) name done rest else bad
    | .hexadecimal mark =>
      if (Text.digitValue? 16 c).isSome then scanTag (.hexadecimal mark) name done rest
      else if c = ';' then scanTag (.value mark) name done rest
      else bad
    | .afterValue =>
      if isSpace c then scanTag .blanks name done rest
      else if c = '>' then close
      else if c = '/' then scanTag .slash name done rest
      else bad
    | .slash => if c = '>' then .ok (⟨name.reverse, done.reverse, true⟩, rest) else bad

/-- A token of element content. -/
inductive ContentToken where
  | startTag (tag : WrittenTag)
  | endTag (name : List Char)
  | reference (r : Reference)
  | comment
  | instruction (kind : Instruction)
  | plainSection
  | data

/-- A token after the sign that opens a tag. -/
def scanMarkup : List Char → Scan ContentToken
  | [] => unfinished
  | '!' :: '-' :: rest => (scanComment rest).map fun r => (.comment, r.2)
  | '!' :: '[' :: rest =>
    (scanSectionOpen ['C', 'D', 'A', 'T', 'A', '['] rest).map fun r => (.plainSection, r.2)
  | ['!'] => unfinished
  | '!' :: rest => invalidAt rest
  | '?' :: rest => (scanInstruction rest).map fun r => (.instruction r.1, r.2)
  | '/' :: rest => (scanEndTag rest).map fun r => (.endTag r.1, r.2)
  | c :: rest =>
    if isNameStart c then (scanTag (.name false) [c] [] rest).map fun r => (.startTag r.1, r.2)
    else invalidAt (c :: rest)

/-- A token of element content. Plain characters are taken one at a time; the end sign of a section
may not stand among them. -/
def scanContent : List Char → Scan ContentToken
  | [] => unfinished
  | '<' :: rest => scanMarkup rest
  | '&' :: rest => (scanReference rest).map fun r => (.reference r.1, r.2)
  | ']' :: ']' :: '>' :: rest => invalidAt ('>' :: rest)
  | c :: rest => if isForbidden c then invalidAt (c :: rest) else .ok (.data, rest)

end ElementFinder.Xml

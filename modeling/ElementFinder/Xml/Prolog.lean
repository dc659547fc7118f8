import ElementFinder.Xml.Token

/-!
# Tokens before the first element

The tokens of the declaration of a document type, and of what may stand around it.
-/

namespace ElementFinder.Xml

/-- How often the thing before a mark may stand. -/
inductive Mark where
  | once
  | optional
  | anyNumber
  | atLeastOnce
  deriving DecidableEq

/-- A token before the first element. -/
inductive PrologToken where
  | space
  | comment
  | instruction (kind : Instruction)
  | byteOrderMark
  | element
  | declaration (keyword : List Char)
  | literal (content : List Char)
  | name (chars : List Char)
  | prefixedName (chars : List Char)
  | nameToken (chars : List Char)
  | markedName (mark : Mark)
  | hashName (chars : List Char)
  | percent
  | parameterReference
  | openBracket
  | closeBracket
  | openParen
  | closeParen (mark : Mark)
  | comma
  | bar
  | close
  | sectionOpen
  | sectionClose

/-- A literal up to its mark; few characters may follow it. -/
def scanLiteral (mark : Char) (cs : List Char) : Scan PrologToken :=
  let content := cs.takeWhile fun c => c != mark && !isForbidden c
  match cs.dropWhile fun c => c != mark && !isForbidden c with
  | [] => unfinished
  | c :: rest =>
    if c ≠ mark then invalidAt (c :: rest)
    else match rest with
      | [] => .ok (.literal content, [])
      | d :: _ =>
        if isSpace d || d == '>' || d == '%' || d == '[' then .ok (.literal content, rest)
        else invalidAt rest

def isKeywordChar (c : Char) : Bool := c.isAlpha || c == '_'

def scanDeclaration (cs : List Char) : Scan PrologToken :=
  match cs with
  | [] => unfinished
  | '-' :: rest => (scanComment rest).map fun r => (.comment, r.2)
  | '[' :: rest => .ok (.sectionOpen, rest)
  | c :: _ =>
    if !isKeywordChar c then invalidAt cs
    else
      let after := cs.dropWhile isKeywordChar
      let token := PrologToken.declaration (cs.takeWhile isKeywordChar)
      match after with
      | [] => unfinished
      | '%' :: rest =>
        match rest with
        | [] => unfinished
        | d :: _ => if isSpace d || d == '%' then invalidAt after else .ok (token, after)
      | d :: _ => if isSpace d then .ok (token, after) else invalidAt after

def scanPercent (cs : List Char) : Scan PrologToken :=
  match cs with
  | [] => unfinished
  | c :: _ =>
    if isSpace c || c == '%' then .ok (.percent, cs)
    else if !isNameStart c then invalidAt cs
    else match cs.dropWhile isNameChar with
      | [] => unfinished
      | ';' :: rest => .ok (.parameterReference, rest)
      | d :: rest => invalidAt (d :: rest)

def scanHashName (cs : List Char) : Scan PrologToken :=
  match cs with
  | [] => unfinished
  | c :: _ =>
    if !isNameStart c then invalidAt cs
    else
      let token := PrologToken.hashName (cs.takeWhile isNameChar)
      match cs.dropWhile isNameChar with
      | [] => .ok (token, [])
      | d :: rest =>
        if isSpace d || d == ')' || d == '>' || d == '%' || d == '|' then .ok (token, d :: rest)
        else invalidAt (d :: rest)

/-- What kind of name has been read so far. -/
inductive NameKind where
  | name
  | prefixed
  | token
  deriving DecidableEq

/-- The token of a name of some kind; its characters are held back to front. -/
def NameKind.toToken (k : NameKind) (chars : List Char) : PrologToken :=
  match k with
  | .name => .name chars.reverse
  | .prefixed => .prefixedName chars.reverse
  | .token => .nameToken chars.reverse

/-- The rest of a name. `afterColon` holds right behind the colon of a prefix. -/
def scanName (kind : NameKind) (afterColon : Bool) (done : List Char) :
    List Char → Scan PrologToken
  | [] => if afterColon then unfinished else .ok (kind.toToken done, [])
  | c :: rest =>
    let kind := if afterColon && !isNameChar c then NameKind.token else kind
    if isNameChar c then scanName kind false (c :: done) rest
    else if isSpace c || c == '>' || c == ')' || c == ',' || c == '|' || c == '[' || c == '%' then
      .ok (kind.toToken done, c :: rest)
    else if c = ':' then
      match kind with
      | .name => scanName .prefixed true (c :: done) rest
      | _ => scanName .token false (c :: done) rest
    else if kind = .token then invalidAt (c :: rest)
    else if c = '+' then .ok (.markedName .atLeastOnce, rest)
    else if c = '*' then .ok (.markedName .anyNumber, rest)
    else if c = '?' then .ok (.markedName .optional, rest)
    else invalidAt (c :: rest)

def scanCloseParen : List Char → Scan PrologToken
  | [] => .ok (.closeParen .once, [])
  | '*' :: rest => .ok (.closeParen .anyNumber, rest)
  | '?' :: rest => .ok (.closeParen .optional, rest)
  | '+' :: rest => .ok (.closeParen .atLeastOnce, rest)
  | c :: rest =>
    if isSpace c || c == '>' || c == ',' || c == '|' || c == ')' then
      .ok (.closeParen .once, c :: rest)
    else invalidAt (c :: rest)

/-- A token before the first element. The first tag is not taken. -/
def scanProlog (text : List Char) : Scan PrologToken :=
  match text with
  | [] => unfinished
  | '<' :: rest =>
    match rest with
    | [] => unfinished
    | '!' :: more => scanDeclaration more
    | '?' :: more => (scanInstruction more).map fun r => (.instruction r.1, r.2)
    | c :: _ => if isNameStart c then .ok (.element, text) else invalidAt rest
  | '"' :: rest => scanLiteral '"' rest
  | '\x27' :: rest => scanLiteral '\x27' rest
  | '%' :: rest => scanPercent rest
  | ',' :: rest => .ok (.comma, rest)
  | '[' :: rest => .ok (.openBracket, rest)
  | ']' :: ']' :: '>' :: rest => .ok (.sectionClose, rest)
  | [']', ']'] => unfinished
  | ']' :: rest => .ok (.closeBracket, rest)
  | '(' :: rest => .ok (.openParen, rest)
  | ')' :: rest => scanCloseParen rest
  | '|' :: rest => .ok (.bar, rest)
  | '>' :: rest => .ok (.close, rest)
  | '#' :: rest => scanHashName rest
  | c :: rest =>
    if isSpace c then .ok (.space, rest.dropWhile isSpace)
    else if isNameStart c then scanName .name false [c] rest
    else if isNameChar c || c == ':' then scanName .token false [c] rest
    else invalidAt text

end ElementFinder.Xml

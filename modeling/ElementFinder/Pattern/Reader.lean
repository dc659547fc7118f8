import ElementFinder.Number.Numeral
import ElementFinder.Pattern.Names
import ElementFinder.Pattern.Width
import ElementFinder.Text.Letters

/-!
# Reading patterns

From the text of a pattern to its pieces. A pattern that cannot be read is malformed, asks for more
repetitions than are possible, or asks for two choices of character classes at once; the first of
these that is met counts.
-/

namespace ElementFinder.Pattern

/-- Why a pattern cannot be used. -/
inductive Fault where
  | malformed
  | tooManyTurns
  | countNumeral (fault : NumeralFault)
  | twoClassChoices
  deriving DecidableEq, Repr

/-- A character of a pattern, alone or after a backslash; a backslash at the very end is dangling. -/
inductive Token where
  | plain (c : Char)
  | escape (c : Char)
  | dangling
  deriving DecidableEq, Repr

def tokens : List Char → List Token
  | [] => []
  | ['\\'] => [.dangling]
  | '\\' :: c :: rest => .escape c :: tokens rest
  | c :: rest => .plain c :: tokens rest

def Token.chars : Token → List Char
  | .plain c => [c]
  | .escape c => ['\\', c]
  | .dangling => ['\\']

/-- What is known while a pattern is read: the tokens left, the widths of the groups so far (none
while a group is open), their names, the groups that conditions ask for, the flags for the whole
pattern, and the number of groups at the start of the outermost look back. -/
structure Progress where
  rest : List Token
  widths : List (Option (Nat × Nat)) := []
  groupNames : List (List Char × Nat) := []
  asked : List Nat := []
  flags : Flags := {}
  backFrom : Option Nat := none

abbrev Reading := StateT Progress (Except Fault)

/-- The number of groups so far, the whole match included. -/
def Progress.groups (s : Progress) : Nat := s.widths.length + 1

def Progress.widthOfGroup (s : Progress) (g : Nat) : Option (Nat × Nat) :=
  if g = 0 then none else (s.widths[g - 1]?).getD none

def Progress.closedWidths (s : Progress) (g : Nat) : Nat × Nat :=
  (s.widthOfGroup g).getD (0, 0)

namespace Reading

def malformed {α : Type} : Reading α := throw .malformed

/-- The next token, which stays. -/
def peek : Reading (Option Token) := do return (← get).rest.head?

/-- Takes the next token; a dangling backslash behind it is found at once. -/
def take : Reading (Option Token) := do
  let s ← get
  match s.rest with
  | [] => return none
  | t :: rest =>
    if rest.head? = some .dangling then malformed
    else
      set { s with rest }
      return some t

/-- Takes the next token if it is the given character. -/
def accept (c : Char) : Reading Bool := do
  if (← peek) = some (.plain c) then
    let _ ← take
    return true
  else return false

/-- Takes up to a number of characters of a kind. -/
def takeSome (ok : Char → Bool) : Nat → Reading (List Char)
  | 0 => return []
  | n + 1 => do
    match ← peek with
    | some (.plain c) =>
      if ok c then
        let _ ← take
        return c :: (← takeSome ok n)
      else return []
    | _ => return []

/-- Takes all characters of a kind. -/
def takeAll (ok : Char → Bool) : Reading (List Char) := do
  takeSome ok (← get).rest.length

/-- Takes what stands before a closing character, and the closing character; it may not be empty. -/
def takeUntil (close : Char) : Nat → List Char → Reading (List Char)
  | 0, _ => malformed
  | fuel + 1, taken => do
    match ← take with
    | none => malformed
    | some t =>
      if t = .plain close then
        if taken.isEmpty then malformed else return taken
      else takeUntil close fuel (taken ++ t.chars)

/-- Takes a name up to a closing character. -/
def takeName (close : Char) : Reading (List Char) := do
  takeUntil close ((← get).rest.length + 1) []

/-- Takes a comment up to its closing bracket. -/
def skipComment : Nat → Reading Unit
  | 0 => malformed
  | fuel + 1 => do
    match ← take with
    | none => malformed
    | some t => if t = .plain ')' then return () else skipComment fuel

def skipLine : Nat → Reading Unit
  | 0 => return ()
  | fuel + 1 => do
    match ← take with
    | none => return ()
    | some t => if t = .plain '\n' then return () else skipLine fuel

end Reading

open Reading

/-- An identifier: letters, digits and underscores, no digit in front. -/
def isIdentifier : List Char → Bool
  | [] => false
  | c :: rest => Text.isWord c && (Text.decimalValue? c).isNone && rest.all Text.isWord

/-- The code of a control character with an escape letter. -/
def controlCode? (c : Char) : Option Nat :=
  match c with
  | 'a' => some 7
  | 'b' => some 8
  | 'f' => some 12
  | 'n' => some 10
  | 'r' => some 13
  | 't' => some 9
  | 'v' => some 11
  | '\\' => some 92
  | _ => none

/-- The character class with an escape letter; a capital letter stands for its opposite. -/
def classOf? (c : Char) : Option SetItem :=
  match c with
  | 'd' => some (.ofClass false .digit)
  | 'D' => some (.ofClass true .digit)
  | 's' => some (.ofClass false .space)
  | 'S' => some (.ofClass true .space)
  | 'w' => some (.ofClass false .word)
  | 'W' => some (.ofClass true .word)
  | _ => none

/-- The position with an escape letter. -/
def placeOf? (c : Char) : Option Place :=
  match c with
  | 'A' => some .textStart
  | 'b' => some .wordEdge
  | 'B' => some .noWordEdge
  | 'Z' => some .textEnd
  | _ => none

def isOctal (c : Char) : Bool := '0' ≤ c && c ≤ '7'

def isHexadecimal (c : Char) : Bool := (Text.digitValue? 16 c).isSome

def spelled (base : Nat) (cs : List Char) : Nat := (Text.numeral? base cs).getD 0

/-- A code of exactly so many hexadecimal digits. -/
def readCode (count : Nat) : Reading Nat := do
  let ds ← takeSome isHexadecimal count
  let n := spelled 16 ds
  if ds.length = count && n < 0x110000 then return n else malformed

def readNamed : Reading Nat := do
  if !(← accept '\x7b') then malformed
  let name ← takeName '\x7d'
  match codeNamed? (String.ofList name) with
  | some n => return n
  | none => malformed

/-- The code of an escape that means the same inside and outside a set. -/
def readSharedEscape (c : Char) : Reading Nat := do
  if c = 'x' then readCode 2
  else if c = 'u' then readCode 4
  else if c = 'U' then readCode 8
  else if c = 'N' then readNamed
  else if c.isAlpha || c.isDigit then malformed
  else return c.toNat

def readSetEscape (c : Char) : Reading SetItem := do
  match controlCode? c, classOf? c with
  | some n, _ => return .code n
  | none, some item => return item
  | none, none =>
    if isOctal c then
      let n := spelled 8 (c :: (← takeSome isOctal 2))
      if 0o377 < n then malformed else return .code n
    else return .code (← readSharedEscape c)

/-- Refuses a group that cannot be referred to while looking back. -/
def checkLookBack (g : Nat) : Reading Unit := do
  let s ← get
  match s.backFrom with
  | none => return ()
  | some start =>
    if (s.widthOfGroup g).isNone || start ≤ g then malformed else return ()

def referTo (g : Nat) : Reading Piece := do
  if ((← get).widthOfGroup g).isNone then malformed
  checkLookBack g
  return .sameAs g

/-- An escape with a digit from one to nine: three octal digits give a code, else it is a group. -/
def readDigitEscape (c : Char) : Reading Piece := do
  match ← takeSome Char.isDigit 1 with
  | [d] =>
    if isOctal c && isOctal d then
      match ← takeSome isOctal 1 with
      | [e] =>
        let n := spelled 8 [c, d, e]
        if 0o377 < n then malformed else return .code false n
      | _ => reference [c, d]
    else reference [c, d]
  | _ => reference [c]
where
  reference (ds : List Char) : Reading Piece := do
    let g := spelled 10 ds
    if g < (← get).groups then referTo g else malformed

def readEscape (c : Char) : Reading Piece := do
  match placeOf? c, classOf? c, controlCode? c with
  | some p, _, _ => return .place p
  | none, some item, _ => return .oneOf false [item]
  | none, none, some n => return .code false n
  | none, none, none =>
    if c = '0' then return .code false (spelled 8 (c :: (← takeSome isOctal 2)))
    else if c.isDigit then readDigitEscape c
    else return .code false (← readSharedEscape c)

/-- The piece for a set; a set of one character is that character. -/
def pieceOfSet (negated : Bool) (items : List SetItem) : Piece :=
  match items.eraseDups with
  | [.code n] => .code negated n
  | unique => .oneOf negated unique

/-- The items of a set up to its closing bracket; a bracket that comes first is an item. -/
def readSetItems : Nat → List SetItem → Reading (List SetItem)
  | 0, _ => malformed
  | fuel + 1, items => do
    match ← take with
    | none | some .dangling => malformed
    | some (.plain ']') =>
      if items.isEmpty then afterItem fuel items (.code 93) else return items
    | some (.plain c) => afterItem fuel items (.code c.toNat)
    | some (.escape c) => afterItem fuel items (← readSetEscape c)
where
  afterItem (fuel : Nat) (items : List SetItem) (item : SetItem) : Reading (List SetItem) := do
    if !(← accept '-') then readSetItems fuel (items ++ [item])
    else
      match ← take with
      | none | some .dangling => malformed
      | some (.plain ']') => return items ++ [item, .code 45]
      | some (.plain c) => rangeTo fuel items item (.code c.toNat)
      | some (.escape c) => rangeTo fuel items item (← readSetEscape c)
  rangeTo (fuel : Nat) (items : List SetItem) (low high : SetItem) : Reading (List SetItem) := do
    match low, high with
    | .code a, .code b =>
      if b < a then malformed else readSetItems fuel (items ++ [.range a b])
    | _, _ => malformed

/-- A set, its opening bracket taken. -/
def readSet : Reading Piece := do
  let negated ← accept '^'
  let items ← readSetItems ((← get).rest.length + 1) []
  return pieceOfSet negated items

/-- The number of repetitions that is never reached. -/
def turnsLimit : Nat := Nat.pow 2 32 - 1

/-- A bound on repetitions from its digits, if there are any. -/
def boundOf (ds : List Char) : Reading (Option Nat) := do
  if ds.isEmpty then return none
  match Numeral.read 10 (String.ofList ds) with
  | .error fault => throw (.countNumeral fault)
  | .ok n => if turnsLimit ≤ n.toNat then throw .tooManyTurns else return some n.toNat

/-- The bounds in braces, the opening brace taken; none if the braces are no bounds. -/
def readBounds : Reading (Option (Nat × Option Nat)) := do
  let start ← get
  if (← peek) = some (.plain '\x7d') then return none
  let low ← takeAll Char.isDigit
  let high ← if ← accept ',' then takeAll Char.isDigit else pure low
  if !(← accept '\x7d') then
    set start
    return none
  let least ← boundOf low
  let most ← boundOf high
  match most with
  | some m => if m < least.getD 0 then malformed else return some (least.getD 0, most)
  | none => return some (least.getD 0, none)

/-- The bounds of a repetition sign, if the sign is one. -/
def readTurns (c : Char) : Reading (Option (Nat × Option Nat)) := do
  if c = '?' then return some (0, some 1)
  else if c = '*' then return some (0, none)
  else if c = '+' then return some (1, none)
  else readBounds

/-- The pieces that a repetition applies to; a plain group gives its content. -/
def repeated? : Piece → Option (List Piece)
  | .place _ => none
  | .times .. => none
  | .group none added dropped body =>
    if added = {} ∧ dropped = {} then some body else some [.group none added dropped body]
  | p => some [p]

def repeatLast (bounds : Nat × Option Nat) (done : List Piece) : Reading (List Piece) := do
  match done.getLast? with
  | none => malformed
  | some last =>
    match repeated? last with
    | none => malformed
    | some body =>
      let greed ← do
        if ← accept '?' then pure Greed.lazy
        else if ← accept '+' then pure Greed.possessive
        else pure Greed.greedy
      return done.dropLast ++ [.times greed bounds.1 bounds.2 body]

def flagOf? (t : Option Token) : Option Flags :=
  match t with
  | some (.plain 'i') => some { ignoreCase := true }
  | some (.plain 'm') => some { multiline := true }
  | some (.plain 's') => some { dotAll := true }
  | some (.plain 'x') => some { verbose := true }
  | some (.plain 'a') => some { ascii := true }
  | some (.plain 'u') => some { unicode := true }
  | some (.plain 't') => some { template := true }
  | _ => none

/-- The flags switched on, and the sign after them. -/
def readAdded : Nat → Option Token → Flags → Reading (Flags × Char)
  | 0, _, _ => malformed
  | fuel + 1, t, added => do
    match flagOf? t with
    | none => malformed
    | some flag =>
      let added := added.union flag
      if added.ascii && added.unicode then malformed
      match ← take with
      | some (.plain ')') => return (added, ')')
      | some (.plain '-') => return (added, '-')
      | some (.plain ':') => return (added, ':')
      | next => readAdded fuel next added

/-- The flags switched off, up to the colon. -/
def readDropped : Nat → Flags → Reading Flags
  | 0, _ => malformed
  | fuel + 1, dropped => do
    match flagOf? (← take) with
    | none => malformed
    | some flag =>
      if flag.hasClasses then malformed
      let dropped := dropped.union flag
      if ← accept ':' then return dropped else readDropped fuel dropped

/-- The flags of a group, or none if they hold for the whole pattern. -/
def readFlags (t : Option Token) : Reading (Option (Flags × Flags)) := do
  let fuel := (← get).rest.length + 1
  let (added, sign) ← if t = some (.plain '-') then pure ({}, '-') else readAdded fuel t {}
  if sign = ')' then
    modify fun s => { s with flags := s.flags.union added }
    return none
  else if added.template then malformed
  else
    let dropped ← if sign = '-' then readDropped fuel {} else pure {}
    if dropped.template then malformed
    if added.without dropped ≠ added then malformed
    return some (added, dropped)

def readCondition : Reading Nat := do
  let name ← takeName ')'
  let group ←
    if isIdentifier name then
      match (← get).groupNames.find? fun e => e.1 == name with
      | some e => pure e.2
      | none => malformed
    else
      match Numeral.read? (String.ofList name) with
      | some n =>
        if n ≤ 0 || Nat.pow 2 30 ≤ n then malformed
        else
          modify fun s => { s with asked := n.toNat :: s.asked }
          pure n.toNat
      | none => malformed
  checkLookBack group
  return group

/-- Opens a group, with a name or without. -/
def openGroup (name : Option (List Char)) : Reading Nat := do
  let s ← get
  let index := s.groups
  match name with
  | none => set { s with widths := s.widths ++ [none] }
  | some n =>
    if s.groupNames.any fun e => e.1 == n then malformed
    set { s with widths := s.widths ++ [none], groupNames := (n, index) :: s.groupNames }
  return index

def closeGroup (index : Nat) (body : List Piece) : Reading Unit :=
  modify fun s =>
    { s with widths := s.widths.set (index - 1) (some (widthOf s.closedWidths body)) }

def closing : Reading Unit := do
  if ← accept ')' then return () else malformed

/-- What opens with a bracket and a question mark. -/
inductive Opening where
  | group (name : Option (List Char))
  | plain (added dropped : Flags)
  | atomic
  | ahead (negated : Bool)
  | behind (negated : Bool)
  | given (group : Nat)
  | wholeFlags
  | comment
  | reference (piece : Piece)

/-- The named forms after `?P`. -/
def readNamedOpening : Reading Opening := do
  if ← accept '<' then
    let name ← takeName '>'
    if isIdentifier name then return .group (some name) else malformed
  else if ← accept '=' then
    let name ← takeName ')'
    match (← get).groupNames.find? fun e => e.1 == name with
    | some e => return .reference (← referTo e.2)
    | none => malformed
  else malformed

/-- What a bracket opens, the bracket taken. -/
def readOpening : Reading Opening := do
  if !(← accept '?') then return .group none
  match ← take with
  | some (.plain 'P') => readNamedOpening
  | some (.plain ':') => return .plain {} {}
  | some (.plain '#') => do
    skipComment ((← get).rest.length + 1)
    return .comment
  | some (.plain '=') => return .ahead false
  | some (.plain '!') => return .ahead true
  | some (.plain '<') => do
    match ← take with
    | some (.plain '=') => return .behind false
    | some (.plain '!') => return .behind true
    | _ => malformed
  | some (.plain '(') => return .given (← readCondition)
  | some (.plain '>') => return .atomic
  | t => do
    match ← readFlags t with
    | none => return .wholeFlags
    | some (added, dropped) => return .plain added dropped

/-- A character that stands for itself between words of a verbose pattern. -/
def isLayout (c : Char) : Bool :=
  c == ' ' || c == '\t' || c == '\n' || c == '\r' || c == '\x0b' || c == '\x0c'

/-- The content of plain groups in the place of the groups. -/
def unpacked (pieces : List Piece) : List Piece :=
  pieces.flatMap fun p => match p with
    | .group none added dropped body => if added = {} ∧ dropped = {} then body else [p]
    | _ => [p]

mutual

/-- Alternatives with bars between them. -/
def readArms (verbose outer : Bool) : Nat → List (List Piece) → Reading (List Piece)
  | 0, _ => malformed
  | fuel + 1, arms => do
    let arm ← readSequence verbose (outer && arms.isEmpty) fuel []
    if ← accept '|' then
      let s ← get
      let verbose := if outer then s.flags.verbose else verbose
      readArms verbose outer fuel (arms ++ [arm])
    else if arms.isEmpty then return arm
    else return [.branch (arms ++ [arm])]

/-- Pieces in sequence, up to a bar, a closing bracket or the end. -/
def readSequence (verbose first : Bool) : Nat → List Piece → Reading (List Piece)
  | 0, _ => malformed
  | fuel + 1, done => do
    match ← peek with
    | none | some (.plain '|') | some (.plain ')') => return unpacked done
    | _ =>
      match ← take with
      | none | some .dangling => malformed
      | some (.escape c) =>
        readSequence verbose first fuel (done ++ [← readEscape c])
      | some (.plain c) =>
        if verbose && isLayout c then readSequence verbose first fuel done
        else if verbose && c = '#' then
          skipLine ((← get).rest.length + 1)
          readSequence verbose first fuel done
        else if c = '[' then do
          readSequence verbose first fuel (done ++ [← readSet])
        else if c = '*' || c = '+' || c = '?' || c = '\x7b' then do
          match ← readTurns c with
          | none => readSequence verbose first fuel (done ++ [.code false c.toNat])
          | some bounds => do readSequence verbose first fuel (← repeatLast bounds done)
        else if c = '.' then readSequence verbose first fuel (done ++ [.anyChar])
        else if c = '^' then readSequence verbose first fuel (done ++ [.place .lineStart])
        else if c = '$' then readSequence verbose first fuel (done ++ [.place .lineEnd])
        else if c = '(' then do
          match ← readOpening with
          | .comment => readSequence verbose first fuel done
          | .reference piece => readSequence verbose first fuel (done ++ [piece])
          | .wholeFlags => do
            if !first || !done.isEmpty then malformed
            let s ← get
            readSequence s.flags.verbose first fuel done
          | .ahead negated => do
            let body ← readArms verbose false fuel []
            closing
            readSequence verbose first fuel (done ++ [.ahead negated body])
          | .behind negated => do
            let outside := (← get).backFrom
            if outside.isNone then modify fun s => { s with backFrom := some s.groups }
            let body ← readArms verbose false fuel []
            if outside.isNone then modify fun s => { s with backFrom := none }
            closing
            let width := widthOf (← get).closedWidths body
            readSequence verbose first fuel (done ++ [.behind negated width body])
          | .given group => do
            let yes ← readSequence verbose false fuel []
            let no ← do
              if ← accept '|' then
                let pieces ← readSequence verbose false fuel []
                if (← peek) = some (.plain '|') then malformed
                pure (some pieces)
              else pure none
            closing
            readSequence verbose first fuel (done ++ [.given group yes no])
          | .atomic => do
            let body ← readArms verbose false fuel []
            closing
            readSequence verbose first fuel (done ++ [.atomic body])
          | .plain added dropped => do
            let inside := (verbose || added.verbose) && !dropped.verbose
            let body ← readArms inside false fuel []
            closing
            readSequence verbose first fuel (done ++ [.group none added dropped body])
          | .group name => do
            let index ← openGroup name
            let body ← readArms verbose false fuel []
            closing
            closeGroup index body
            readSequence verbose first fuel (done ++ [.group (some index) {} {} body])
        else readSequence verbose first fuel (done ++ [.code false c.toNat])

end

/-- The whole of a pattern: nothing is left over, and every group that a condition asks for exists. -/
def readWhole : Reading Program := do
  if (← peek) = some .dangling then malformed
  let start ← get
  let pieces ← readArms start.flags.verbose true (3 * start.rest.length + 3) []
  let s ← get
  if s.flags.ascii && s.flags.unicode then throw .twoClassChoices
  if !s.rest.isEmpty then malformed
  if s.asked.any fun g => s.groups ≤ g then malformed
  let flags := { s.flags with unicode := !s.flags.ascii }
  if usableAll flags.template pieces then return ⟨pieces, flags, s.groups⟩ else malformed

def read (flags : Flags) (text : String) : Except Fault Program :=
  (readWhole.run { rest := tokens text.toList, flags }).map (·.1)

end ElementFinder.Pattern

import ElementFinder.Pattern.CharClass
import ElementFinder.Pattern.Reader

/-!
# Searching a text for a pattern

A piece is matched at a position and hands every end that it finds, in order of preference, to what
comes after it. A repetition that has its least number of turns takes no further turn from a
position where its last turn began, so every repetition ends.
-/

namespace ElementFinder.Pattern

/-- The borders of a group in the text, as far as they have been passed. -/
structure Slot where
  start : Option Nat := none
  stop : Option Nat := none
  deriving DecidableEq, Repr

/-- How far a match has come: a position of the text and the borders of the groups. -/
structure Cursor where
  position : Nat
  slots : List Slot

/-- What comes after a piece. -/
abbrev Next := Cursor → Option Cursor

abbrev Matcher := Cursor → Next → Option Cursor

/-- The borders of a group, if the group has been passed. -/
def Cursor.span? (s : Cursor) (group : Nat) : Option (Nat × Nat) :=
  match s.slots[group - 1]? with
  | some ⟨some i, some j⟩ => if i ≤ j then some (i, j) else none
  | _ => none

/-- Notes where a group begins. -/
def Cursor.openSlot (s : Cursor) (group : Nat) : Cursor :=
  { s with slots := s.slots.modify (group - 1) fun slot => { slot with start := some s.position } }

/-- Notes where a group ends. -/
def Cursor.closeSlot (s : Cursor) (group : Nat) : Cursor :=
  { s with slots := s.slots.modify (group - 1) fun slot => { slot with stop := some s.position } }

def oneChar (text : Array Char) (test : Char → Bool) : Matcher := fun s next =>
  match text[s.position]? with
  | some c => if test c then next { s with position := s.position + 1 } else none
  | none => none

def testBefore (text : Array Char) (test : Char → Bool) (i : Nat) : Bool :=
  if i = 0 then false else (text[i - 1]?.map test).getD false

def testAt (text : Array Char) (test : Char → Bool) (i : Nat) : Bool :=
  (text[i]?.map test).getD false

/-- The position satisfies a condition. -/
def Place.holds (flags : Flags) (text : Array Char) (i : Nat) : Place → Bool
  | .textStart => i == 0
  | .lineStart => i == 0 || (flags.multiline && testBefore text (· == '\n') i)
  | .textEnd => i == text.size
  | .lineEnd =>
    i == text.size
      || (testAt text (· == '\n') i && (flags.multiline || i + 1 == text.size))
  | .wordEdge =>
    !text.isEmpty && testBefore text (isWordUnder flags) i != testAt text (isWordUnder flags) i
  | .noWordEdge =>
    !text.isEmpty && testBefore text (isWordUnder flags) i == testAt text (isWordUnder flags) i

/-- The text from `j` on begins with the text between `i` and `i + count`. -/
def sameRun (flags : Flags) (text : Array Char) (i j : Nat) : Nat → Bool
  | 0 => true
  | count + 1 =>
    match text[i]?, text[j]? with
    | some a, some b => sameUnder flags a b && sameRun flags text (i + 1) (j + 1) count
    | _, _ => false

def mayTurn (most : Option Nat) (count : Nat) : Bool :=
  match most with
  | none => true
  | some m => count < m

/-- Turns of a repetition that takes as many as it can; `last` is where the last turn beyond the
least number began. -/
def turnsGreedy (item : Matcher) (least : Nat) (most : Option Nat) :
    Nat → Nat → Option Nat → Matcher
  | 0, _, _ => fun _ _ => none
  | fuel + 1, count, last => fun s next =>
    if count < least then
      item s fun t => turnsGreedy item least most fuel (count + 1) last t next
    else if mayTurn most count && last != some s.position then
      match item s fun t => turnsGreedy item least most fuel (count + 1) (some s.position) t next with
      | some r => some r
      | none => next s
    else next s

/-- Turns of a repetition that takes as few as it can. -/
def turnsLazy (item : Matcher) (least : Nat) (most : Option Nat) :
    Nat → Nat → Option Nat → Matcher
  | 0, _, _ => fun _ _ => none
  | fuel + 1, count, last => fun s next =>
    if count < least then
      item s fun t => turnsLazy item least most fuel (count + 1) last t next
    else match next s with
      | some r => some r
      | none =>
        if mayTurn most count && last != some s.position then
          item s fun t => turnsLazy item least most fuel (count + 1) (some s.position) t next
        else none

/-- Turns of a repetition that takes as many as it can, each as it first matches. -/
def turnsPossessive (item : Matcher) (least : Nat) (most : Option Nat) :
    Nat → Nat → Option Nat → Cursor → Option Cursor
  | 0, _, _, _ => none
  | fuel + 1, count, last, s =>
    if count < least then
      match item s some with
      | some t => turnsPossessive item least most fuel (count + 1) last t
      | none => none
    else if mayTurn most count && last != some s.position then
      match item s some with
      | some t => turnsPossessive item least most fuel (count + 1) (some s.position) t
      | none => some s
    else some s

/-- A repetition. Beyond the least number of turns each turn but the last moves on. -/
def turns (text : Array Char) (greed : Greed) (item : Matcher) (least : Nat) (most : Option Nat) :
    Matcher := fun s next =>
  let fuel := least + (text.size - s.position) + 2
  match greed with
  | .greedy => turnsGreedy item least most fuel 0 none s next
  | .lazy => turnsLazy item least most fuel 0 none s next
  | .possessive => (turnsPossessive item least most fuel 0 none s).bind next

mutual

def matchPiece (flags : Flags) (text : Array Char) : Piece → Matcher
  | .code negated n => oneChar text fun c => codeHolds flags n c != negated
  | .anyChar => oneChar text fun c => flags.dotAll || c != '\n'
  | .oneOf negated items => oneChar text (setHolds flags negated items)
  | .place p => fun s next => if p.holds flags text s.position then next s else none
  | .group none added dropped body => matchAll (flags.inGroup added dropped) text body
  | .group (some g) added dropped body => fun s next =>
    matchAll (flags.inGroup added dropped) text body (s.openSlot g) fun t => next (t.closeSlot g)
  | .branch arms => matchArms flags text arms
  | .times greed least most body => turns text greed (matchAll flags text body) least most
  | .atomic body => fun s next => (matchAll flags text body s some).bind next
  | .ahead negated body => fun s next =>
    match matchAll flags text body s some with
    | some t => if negated then none else next { t with position := s.position }
    | none => if negated then next s else none
  | .behind negated width body => fun s next =>
    let found :=
      if s.position < width.1 then none
      else matchAll flags text body { s with position := s.position - width.1 } some
    match found with
    | some t => if negated then none else next { t with position := s.position }
    | none => if negated then next s else none
  | .sameAs g => fun s next =>
    match s.span? g with
    | some (i, j) =>
      if sameRun flags text i s.position (j - i) then next { s with position := s.position + (j - i) } else none
    | none => none
  | .given g yes no => fun s next =>
    if (s.span? g).isSome then matchAll flags text yes s next
    else match no with
      | some pieces => matchAll flags text pieces s next
      | none => next s

def matchAll (flags : Flags) (text : Array Char) : List Piece → Matcher
  | [] => fun s next => next s
  | p :: rest => fun s next =>
    matchPiece flags text p s fun t => matchAll flags text rest t next

def matchArms (flags : Flags) (text : Array Char) : List (List Piece) → Matcher
  | [] => fun _ _ => none
  | arm :: rest => fun s next =>
    match matchAll flags text arm s next with
    | some r => some r
    | none => matchArms flags text rest s next

end

/-- The pattern matches at a position from `i` on, with `count` positions to try. -/
def searchFrom (program : Program) (text : Array Char) (i : Nat) : Nat → Bool
  | 0 => false
  | count + 1 =>
    (matchAll program.flags text program.pieces
      ⟨i, List.replicate (program.groups - 1) {}⟩ some).isSome
      || searchFrom program text (i + 1) count

/-- The pattern matches somewhere in the text. -/
def Program.search (program : Program) (text : String) : Bool :=
  let cs := text.toList.toArray
  searchFrom program cs 0 (cs.size + 1)

end ElementFinder.Pattern

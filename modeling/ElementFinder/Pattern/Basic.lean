/-!
# Search patterns

The structure of a search pattern: pieces in sequence, each with the flags of the group it stands
in. Characters are given by code, so that a pattern can name codes that no text holds.
-/

namespace ElementFinder.Pattern

/-- The switches that change what a pattern matches or how it is written. -/
structure Flags where
  ignoreCase : Bool := false
  multiline : Bool := false
  dotAll : Bool := false
  verbose : Bool := false
  ascii : Bool := false
  unicode : Bool := false
  template : Bool := false
  deriving DecidableEq, Repr

namespace Flags

/-- A choice of character classes is among the flags. -/
def hasClasses (f : Flags) : Bool := f.ascii || f.unicode

/-- All flags of both. -/
def union (f g : Flags) : Flags where
  ignoreCase := f.ignoreCase || g.ignoreCase
  multiline := f.multiline || g.multiline
  dotAll := f.dotAll || g.dotAll
  verbose := f.verbose || g.verbose
  ascii := f.ascii || g.ascii
  unicode := f.unicode || g.unicode
  template := f.template || g.template

/-- The flags of the first that are not among the second. -/
def without (f g : Flags) : Flags where
  ignoreCase := f.ignoreCase && !g.ignoreCase
  multiline := f.multiline && !g.multiline
  dotAll := f.dotAll && !g.dotAll
  verbose := f.verbose && !g.verbose
  ascii := f.ascii && !g.ascii
  unicode := f.unicode && !g.unicode
  template := f.template && !g.template

/-- The flags inside a group that adds some and drops others; an added choice of character classes
replaces the one outside. -/
def inGroup (f added dropped : Flags) : Flags :=
  let outside := if added.hasClasses then { f with ascii := false, unicode := false } else f
  (outside.union added).without dropped

end Flags

/-- A class of characters. -/
inductive CharClass where
  | digit
  | space
  | word
  deriving DecidableEq, Repr

/-- A member of a character set. -/
inductive SetItem where
  | code (n : Nat)
  | range (low high : Nat)
  | ofClass (negated : Bool) (cls : CharClass)
  deriving DecidableEq, Repr

/-- A condition on a position of the text. -/
inductive Place where
  | lineStart
  | lineEnd
  | textStart
  | textEnd
  | wordEdge
  | noWordEdge
  deriving DecidableEq, Repr

/-- How a repetition takes its turns: as many as possible, as few as possible, or as many as
possible without giving any back. -/
inductive Greed where
  | greedy
  | lazy
  | possessive
  deriving DecidableEq, Repr

/-- A piece of a pattern. -/
inductive Piece where
  | code (negated : Bool) (n : Nat)
  | anyChar
  | oneOf (negated : Bool) (items : List SetItem)
  | place (p : Place)
  | group (index : Option Nat) (added dropped : Flags) (body : List Piece)
  | branch (arms : List (List Piece))
  | times (greed : Greed) (least : Nat) (most : Option Nat) (body : List Piece)
  | atomic (body : List Piece)
  | ahead (negated : Bool) (body : List Piece)
  | behind (negated : Bool) (width : Nat × Nat) (body : List Piece)
  | sameAs (group : Nat)
  | given (group : Nat) (yes : List Piece) (no : Option (List Piece))

/-- A pattern: its pieces, the flags that hold for all of it, and the number of its groups. -/
structure Program where
  pieces : List Piece
  flags : Flags
  groups : Nat

end ElementFinder.Pattern

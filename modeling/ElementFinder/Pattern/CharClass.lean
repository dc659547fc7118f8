import ElementFinder.Pattern.Basic
import ElementFinder.Text.Blank
import ElementFinder.Text.Case
import ElementFinder.Text.Digit
import ElementFinder.Text.Letters

/-!
# Characters against patterns

Which characters a single-character piece accepts. Without regard to case a character is compared
by its lower case partner; a few lower case letters also stand for each other.
-/

namespace ElementFinder.Pattern

/-- Groups of lower case letters with a common upper case letter. -/
def sharedCases : List (List Nat) := [
  [0x69, 0x131], [0x73, 0x17F], [0xB5, 0x3BC], [0x345, 0x3B9, 0x1FBE], [0x390, 0x1FD3],
  [0x3B0, 0x1FE3], [0x3B2, 0x3D0], [0x3B5, 0x3F5], [0x3B8, 0x3D1], [0x3BA, 0x3F0],
  [0x3C0, 0x3D6], [0x3C1, 0x3F1], [0x3C2, 0x3C3], [0x3C6, 0x3D5], [0x432, 0x1C80],
  [0x434, 0x1C81], [0x43E, 0x1C82], [0x441, 0x1C83], [0x442, 0x1C84, 0x1C85], [0x44A, 0x1C86],
  [0x463, 0x1C87], [0x1C88, 0xA64B], [0x1E61, 0x1E9B], [0xFB05, 0xFB06]]

/-- The lower case code of a code; the ASCII letters only, under that choice of classes. -/
def lowerCode (ascii : Bool) (n : Nat) : Nat :=
  if ascii then if 65 ≤ n ∧ n ≤ 90 then n + 32 else n
  else (Text.lowerPartner (Char.ofNat n)).toNat

/-- The codes that a lower case code stands for, itself among them. -/
def sharing (ascii : Bool) (n : Nat) : List Nat :=
  if ascii then [n]
  else (sharedCases.find? fun codes => codes.contains n).getD [n]

/-- The codes with the given lower case code. -/
def capitalsOf (ascii : Bool) (n : Nat) : List Nat :=
  let plain := if 97 ≤ n ∧ n ≤ 122 then [n - 32] else []
  if ascii then plain
  else plain ++ Text.CaseTable.lowerRuns.toList.filterMap fun r =>
    let m := ((n : Int) - r.2.2.2).toNat
    if r.1 ≤ m && m ≤ r.2.1 && (m - r.1) % r.2.2.1 == 0 then some m else none

/-- The codes of the basic plane that a lower case code is equal to without regard to case. -/
def caseVariants (ascii : Bool) (n : Nat) : List Nat :=
  (sharing ascii n).flatMap fun m =>
    (if lowerCode ascii m = m then [m] else []) ++ capitalsOf ascii m

/-- The character is in the class. -/
def CharClass.holds (ascii : Bool) (cls : CharClass) (c : Char) : Bool :=
  match cls, ascii with
  | .digit, true => c.isDigit
  | .digit, false => (Text.decimalValue? c).isSome
  | .space, true => c == ' ' || (9 ≤ c.toNat && c.toNat ≤ 13)
  | .space, false => Text.isBlank c
  | .word, true => Text.isWordAscii c
  | .word, false => Text.isWord c

def isWordUnder (flags : Flags) (c : Char) : Bool :=
  CharClass.word.holds (!flags.unicode) c

/-- The character is the code, or equal to it without regard to case. -/
def codeHolds (flags : Flags) (n : Nat) (c : Char) : Bool :=
  if flags.ignoreCase then
    let ascii := !flags.unicode
    (sharing ascii (lowerCode ascii n)).contains (lowerCode ascii c.toNat)
  else c.toNat == n

/-- The code lies in a range of a set without regard to case. -/
def rangeHolds (ascii : Bool) (low high n : Nat) : Bool :=
  (caseVariants ascii n).any (fun m => low ≤ m && m ≤ min high 0xFFFF)
    || (0x10000 ≤ high
      && ((low ≤ n && n ≤ high)
        || (let up := (Text.upperPartnerBeyond (Char.ofNat n)).toNat; low ≤ up && up ≤ high)))

/-- The character belongs to an item of a set. -/
def SetItem.holds (flags : Flags) (c : Char) : SetItem → Bool
  | .code n =>
    if n < 0x10000 then codeHolds flags n c
    else if flags.ignoreCase then lowerCode (!flags.unicode) c.toNat == n
    else c.toNat == n
  | .range low high =>
    if flags.ignoreCase then
      rangeHolds (!flags.unicode) low high (lowerCode (!flags.unicode) c.toNat)
    else low ≤ c.toNat && c.toNat ≤ high
  | .ofClass negated cls => cls.holds (!flags.unicode) c != negated

def setHolds (flags : Flags) (negated : Bool) (items : List SetItem) (c : Char) : Bool :=
  items.any (fun i => i.holds flags c) != negated

/-- Two characters are equal under the flags. -/
def sameUnder (flags : Flags) (a b : Char) : Bool :=
  if flags.ignoreCase then
    lowerCode (!flags.unicode) a.toNat == lowerCode (!flags.unicode) b.toNat
  else a == b

end ElementFinder.Pattern

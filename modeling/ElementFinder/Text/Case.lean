import ElementFinder.Text.CaseTable
import ElementFinder.Text.Ranges

/-!
# Letter case

The lower case of a text. A capital sigma becomes the final form at the end of a word, and a dotted
capital I becomes two characters; every other letter has one partner.
-/

namespace ElementFinder.Text

open CaseTable

/-- The single lower case partner of a character. -/
def lowerPartner (c : Char) : Char :=
  if c.toNat < 0x80 then c.toLower else Char.ofNat (shiftOf lowerRuns c.toNat)

/-- The single upper case partner of a character beyond the basic plane. -/
def upperPartnerBeyond (c : Char) : Char :=
  if c.toNat < 0x10000 then c else Char.ofNat (shiftOf upperRuns c.toNat)

/-- A character that is skipped when the letters around a sigma are looked up. -/
def isCaseIgnorable (c : Char) : Bool :=
  if c.toNat < 0x80 then c == '^' || c == '\x60' || c == ':' || c == '.' || c == '\x27'
  else inRanges ignorableRanges c.toNat

def isCased (c : Char) : Bool :=
  if c.toNat < 0x80 then c.isAlpha else inRanges casedRanges c.toNat

/-- The first character that is not skipped is a letter with a case. -/
def meetsCased (cs : List Char) : Bool :=
  match cs.dropWhile isCaseIgnorable with
  | [] => false
  | c :: _ => isCased c

/-- Lower case, letter by letter; `before` holds the characters already passed, nearest first. -/
def lowerChars (before : List Char) : List Char → List Char
  | [] => []
  | c :: rest =>
    let here :=
      if c = 'Σ' then [if meetsCased before && !meetsCased rest then 'ς' else 'σ']
      else if c = 'İ' then ['i', '\u0307']
      else [lowerPartner c]
    here ++ lowerChars (c :: before) rest

def lower (s : String) : String :=
  String.ofList (lowerChars [] s.toList)

/-- The upper case of a character where that is an ASCII letter; the dotless i and the long s have
one too. -/
def capital (c : Char) : Char :=
  if c.toNat = 0x131 then 'I' else if c.toNat = 0x17F then 'S' else c.toUpper

/-- The text with every letter that has an upper case in ASCII in that form. -/
def capitals (s : String) : String := String.ofList (s.toList.map capital)

end ElementFinder.Text

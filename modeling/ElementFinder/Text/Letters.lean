import ElementFinder.Text.LetterTable
import ElementFinder.Text.Ranges

/-!
# Letters and visible characters
-/

namespace ElementFinder.Text

open LetterTable

/-- A letter or numeral of any script, or the underscore. -/
def isWord (c : Char) : Bool :=
  if c.toNat < 0x80 then c.isAlphanum || c == '_' else inRanges wordRanges c.toNat

/-- An ASCII letter or digit, or the underscore. -/
def isWordAscii (c : Char) : Bool := c.isAlphanum || c == '_'

/-- A character with a visible form; the plain space counts as visible. -/
def isVisible (c : Char) : Bool :=
  if c.toNat < 0x80 then 32 ≤ c.toNat && c.toNat < 127 else !inRanges hiddenRanges c.toNat

end ElementFinder.Text

import ElementFinder.Pattern.NameTables
import ElementFinder.Text.Digit

/-!
# Character names

The names by which a pattern can spell a character: those of the tables, in any mix of letter cases, and
those that follow a rule, in capital letters. No other names are known.
-/

namespace ElementFinder.Pattern

/-- The code of the character of a block with the given name. -/
def Block.code? (b : Block) (name : String) : Option Nat :=
  (b.names.findIdx? (· == name)).map (b.first + ·)

/-- The rest of a name that starts with some words. -/
def restAfter? (start name : String) : Option (List Char) :=
  if start.toList.isPrefixOf name.toList then some (name.toList.drop start.length) else none

/-- The codes of the unified ideographs. -/
def isIdeograph (n : Nat) : Bool :=
  (0x3400 ≤ n && n ≤ 0x4DBF) || (0x4E00 ≤ n && n ≤ 0x9FFF) || (0x20000 ≤ n && n ≤ 0x2A6DF)
    || (0x2A700 ≤ n && n ≤ 0x2B738) || (0x2B740 ≤ n && n ≤ 0x2B81D)
    || (0x2B820 ≤ n && n ≤ 0x2CEA1) || (0x2CEB0 ≤ n && n ≤ 0x2EBE0)
    || (0x30000 ≤ n && n ≤ 0x3134A)

/-- An ideograph is named by its code, in four or five hexadecimal digits. -/
def ideograph? (name : String) : Option Nat := do
  let ds ← restAfter? "CJK UNIFIED IDEOGRAPH-" name
  let n ← Text.numeral? 16 ds
  if (ds.length = 4 || ds.length = 5) && !ds.any Char.isLower && isIdeograph n then some n else none

/-- The sounds that a syllable of the Korean alphabet can begin with. -/
def initialSounds : List String :=
  ["G", "GG", "N", "D", "DD", "R", "M", "B", "BB", "S", "SS", "", "J", "JJ", "C", "K", "T", "P", "H"]

def middleSounds : List String :=
  ["A", "AE", "YA", "YAE", "EO", "E", "YEO", "YE", "O", "WA", "WAE", "OE", "YO", "U", "WEO", "WE",
    "WI", "YU", "EU", "YI", "I"]

def finalSounds : List String :=
  ["", "G", "GG", "GS", "N", "NJ", "NH", "D", "L", "LG", "LM", "LB", "LS", "LT", "LP", "LH", "M", "B",
    "BS", "S", "SS", "NG", "J", "C", "K", "T", "P", "H"]

/-- All syllables, in the order of their codes. -/
def syllables : List String :=
  initialSounds.flatMap fun i => middleSounds.flatMap fun m => finalSounds.map fun f => i ++ m ++ f

/-- A syllable is named by its sounds. -/
def syllable? (name : String) : Option Nat := do
  let sounds ← restAfter? "HANGUL SYLLABLE " name
  let i ← syllables.findIdx? (· == String.ofList sounds)
  return 0xAC00 + i

/-- The code of the character with the given name. -/
def codeNamed? (name : String) : Option Nat :=
  let wanted := name.map Char.toUpper
  if wanted.isEmpty then none
  else syllable? name <|> ideograph? name <|> blocks.findSome? (·.code? wanted)
    <|> (aliases.find? fun e => e.1 == wanted).map (·.2)

end ElementFinder.Pattern

/-!
# Parts of a text

Substring search, replacement, and splitting at a character.
-/

namespace ElementFinder.Text

/-- The part occurs as a run of neighbouring characters. -/
def occursIn (part : List Char) : List Char → Bool
  | [] => part.isEmpty
  | c :: rest => part.isPrefixOf (c :: rest) || occursIn part rest

/-- The part occurs in the text. -/
def contains (text part : String) : Bool :=
  occursIn part.toList text.toList

/-- Every character `old` becomes the text `new`. -/
def replaceChar (old : Char) (new : List Char) (cs : List Char) : List Char :=
  cs.flatMap fun c => if c = old then new else [c]

/-- The pieces between the separators. -/
def splitAt (sep : Char) : List Char → List (List Char)
  | [] => [[]]
  | c :: rest =>
    if c = sep then [] :: splitAt sep rest
    else match splitAt sep rest with
      | [] => [[c]]
      | piece :: more => (c :: piece) :: more

/-- The text without the given character at its end. -/
def trimEndOf (drop : Char → Bool) (cs : List Char) : List Char :=
  (cs.reverse.dropWhile drop).reverse

/-- The text without the given characters at both ends. -/
def trimOf (drop : Char → Bool) (cs : List Char) : List Char :=
  trimEndOf drop (cs.dropWhile drop)

/-- The items with a separator between neighbours. -/
def joined (sep : String) : List String → String
  | [] => ""
  | [s] => s
  | s :: t :: rest => s ++ sep ++ joined sep (t :: rest)

end ElementFinder.Text

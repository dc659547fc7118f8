import ElementFinder.Text.Search
import ElementFinder.Value.Time
import ElementFinder.Yaml.Node

/-!
# The kinds of plain texts

A text without a tag stands for the kind of value that its form shows: truth values, numbers in
several bases and in base sixty, null, dates and moments; for itself if it shows none.
-/

namespace ElementFinder.Yaml

def isDigitOrLine (c : Char) : Bool := c.isDigit || c == '_'

def dropSign : List Char → List Char
  | '+' :: rest | '-' :: rest => rest
  | cs => cs

/-- A digit with digits and underscores behind it. -/
def isCount : List Char → Bool
  | [] => false
  | c :: rest => c.isDigit && rest.all isDigitOrLine

def isSixtieth : List Char → Bool
  | [a] => a.isDigit
  | [a, b] => '0' ≤ a && a ≤ '5' && b.isDigit
  | _ => false

/-- A count with at least one part of sixty behind it, parted by colons. -/
def isSixties (cs : List Char) : Bool :=
  match Text.splitAt ':' cs with
  | first :: part :: more => isCount first && (part :: more).all isSixtieth
  | _ => false

def showsBool (cs : List Char) : Bool :=
  ["yes", "Yes", "YES", "no", "No", "NO", "true", "True", "TRUE", "false", "False", "FALSE",
    "on", "On", "ON", "off", "Off", "OFF"].contains (String.ofList cs)

def showsInt (cs : List Char) : Bool :=
  match dropSign cs with
  | [] => false
  | ['0'] => true
  | '0' :: 'b' :: rest =>
    !rest.isEmpty && rest.all fun c => c == '0' || c == '1' || c == '_'
  | '0' :: 'x' :: rest =>
    !rest.isEmpty && rest.all fun c => (Text.digitValue? 16 c).isSome || c == '_'
  | '0' :: rest => rest.all fun c => (Text.digitValue? 8 c).isSome || c == '_'
  | ds => isCount ds || isSixties ds

/-- Nothing, or an exponent with its sign. -/
def isExponent : List Char → Bool
  | [] => true
  | e :: s :: d :: rest => (e == 'e' || e == 'E') && (s == '+' || s == '-') && (d :: rest).all Char.isDigit
  | _ => false

/-- Digits and underscores, with or without an exponent behind them. -/
def isFraction (cs : List Char) : Bool := isExponent (cs.dropWhile isDigitOrLine)

def showsFloat (cs : List Char) : Bool :=
  let word := String.ofList cs
  let ds := dropSign cs
  let unsigned := String.ofList ds
  let before := ds.takeWhile (· != '.')
  [".nan", ".NaN", ".NAN"].contains word
    || [".inf", ".Inf", ".INF"].contains unsigned
    || (match ds.dropWhile (· != '.') with
      | '.' :: after =>
        isCount before && isFraction after
          || isSixties before && after.all isDigitOrLine
          || (before.isEmpty && ds.length = cs.length && (after.head?.map Char.isDigit).getD false
            && isFraction after)
      | _ => false)

def showsNull (cs : List Char) : Bool :=
  ["", "~", "null", "Null", "NULL"].contains (String.ofList cs)

/-- A number of at least and at most so many digits, and what is behind it. -/
def digitGroup (least most : Nat) (cs : List Char) : Option (Nat × List Char) :=
  let ds := (cs.take most).takeWhile Char.isDigit
  if ds.length < least then none
  else (Text.numeral? 10 ds).map fun n => (n, cs.drop ds.length)

def behind (c : Char) : List Char → Option (List Char)
  | [] => none
  | x :: rest => if x = c then some rest else none

/-- The microseconds that digits behind a point spell; further digits do not count. -/
def microseconds (ds : List Char) : Nat :=
  let six := ds.take 6
  Text.ofDigits 10 (six.filterMap (Text.digitValue? 10)) * Nat.pow 10 (6 - six.length)

/-- The distance to universal time at the end of a moment, in minutes; none if none is given. -/
def zone? (cs : List Char) : Option (Option Int) :=
  match cs.dropWhile isBlank with
  | [] => if cs.isEmpty then some none else none
  | ['Z'] => some (some 0)
  | sign :: rest =>
    if sign ≠ '+' ∧ sign ≠ '-' then none
    else do
      let (hours, rest) ← digitGroup 1 2 rest
      let minutes ← match rest with
        | [] => some 0
        | ':' :: more => match digitGroup 2 2 more with
          | some (m, []) => some m
          | _ => none
        | _ => none
      let total : Int := hours * 60 + minutes
      return some (if sign = '-' then -total else total)

def timeOfDay? (date : Date) (cs : List Char) : Option Moment := do
  let rest ← match cs with
    | 'T' :: rest | 't' :: rest => some rest
    | c :: rest => if isBlank c then some (rest.dropWhile isBlank) else none
    | [] => none
  let (hour, rest) ← digitGroup 1 2 rest
  let (minute, rest) ← digitGroup 2 2 (← behind ':' rest)
  let (second, rest) ← digitGroup 2 2 (← behind ':' rest)
  let (fraction, rest) := match rest with
    | '.' :: more => (more.takeWhile Char.isDigit, more.dropWhile Char.isDigit)
    | _ => ([], rest)
  let offset ← zone? rest
  return { date, hour, minute, second, microsecond := microseconds fraction, offset }

/-- A date, or a date with a time of day. -/
inductive Timestamp where
  | date (d : Date)
  | moment (m : Moment)
  deriving DecidableEq, Repr

/-- The text without one line feed at its end. -/
def dropFinalFeed (cs : List Char) : List Char :=
  if cs.getLast? = some '\n' then cs.dropLast else cs

/-- The date or the moment that a text spells. -/
def Timestamp.read? (cs : List Char) : Option Timestamp := do
  let (year, rest) ← digitGroup 4 4 cs
  let (month, rest) ← digitGroup 1 2 (← behind '-' rest)
  let (day, rest) ← digitGroup 1 2 (← behind '-' rest)
  let date : Date := ⟨year, month, day⟩
  if rest.isEmpty then return .date date else return .moment (← timeOfDay? date rest)

/-- The text shows a date with two digits for month and day, or a moment. -/
def showsTimestamp (cs : List Char) : Bool :=
  match Timestamp.read? cs with
  | some (.date _) => cs.length = 10
  | some (.moment _) => true
  | none => false

/-- The kind of value that a text without a tag shows. -/
def Tag.ofPlain (text : String) : Tag :=
  let cs := dropFinalFeed text.toList
  if showsBool cs then .bool
  else if showsFloat cs then .float
  else if showsInt cs then .int
  else if cs = ['<', '<'] then .merge
  else if showsNull cs then .null
  else if showsTimestamp cs then .timestamp
  else if cs = ['='] then .value
  else .text

end ElementFinder.Yaml

import ElementFinder.Text.Blank
import ElementFinder.Text.Digit
import ElementFinder.Text.Quoted
import ElementFinder.Text.Search

/-!
# Integer numerals

Reading an integer from a text, and the limit on the digits of a numeral in base ten.
-/

namespace ElementFinder

/-- Why an integer cannot be read or written. -/
inductive NumeralFault where
  | malformed (base : Nat) (text : String)
  | tooManyDigits (count : Nat)
  | tooLongToWrite
  deriving DecidableEq, Repr

namespace Numeral

/-- The most digits that a numeral in base ten may have. -/
def digitLimit : Nat := 4300

/-- White space that may stand around a numeral: all but the information separators. -/
def isMargin (c : Char) : Bool :=
  Text.isBlank c && !(28 ≤ c.toNat && c.toNat ≤ 31)

/-- A decimal digit of another script as its ASCII form. -/
def plainDigit (c : Char) : Char :=
  if c.toNat < 0x80 then c
  else match Text.decimalValue? c with
    | some d => Char.ofNat (48 + d)
    | none => c

/-- The characters of a numeral without the white space around it, in ASCII digits. -/
def core (s : String) : List Char :=
  Text.trimOf isMargin (s.toList.map plainDigit)

/-- The sign in front, `true` for minus, and what follows it. -/
def splitSign : List Char → Bool × List Char
  | '-' :: rest => (true, rest)
  | '+' :: rest => (false, rest)
  | cs => (false, cs)

/-- What follows the mark of the base, such as `0x`, and one underscore after it. -/
def dropBaseMark (base : Nat) : List Char → List Char
  | '0' :: m :: rest =>
    if (base = 16 ∧ (m = 'x' ∨ m = 'X')) ∨ (base = 8 ∧ (m = 'o' ∨ m = 'O'))
        ∨ (base = 2 ∧ (m = 'b' ∨ m = 'B')) then
      match rest with
      | '_' :: more => more
      | _ => rest
    else '0' :: m :: rest
  | cs => cs

/-- The digits in front, with single underscores between digits left out, and what follows them;
nothing if an underscore follows a digit and no digit follows the underscore. -/
def digitRun (base : Nat) : List Char → Option (List Nat × List Char)
  | [] => some ([], [])
  | [c] => match Text.digitValue? base c with
    | some d => some ([d], [])
    | none => some ([], [c])
  | c :: u :: rest => match Text.digitValue? base c with
    | none => some ([], c :: u :: rest)
    | some d =>
      if u = '_' then
        match digitRun base rest with
        | some (e :: ds, more) => some (d :: e :: ds, more)
        | _ => none
      else (digitRun base (u :: rest)).map fun (ds, more) => (d :: ds, more)

/-- The digits limit holds for every base but the powers of two. -/
def limited (base : Nat) : Bool := base == 10

/-- The integer that a text spells in a base: white space around it, a sign, single underscores
between the digits. -/
def read (base : Nat) (s : String) : Except NumeralFault Int :=
  let (negative, cs) := splitSign (core s)
  match digitRun base (dropBaseMark base cs) with
  | none => .error (.malformed base s)
  | some (ds, rest) =>
    if limited base && digitLimit < ds.length then .error (.tooManyDigits ds.length)
    else if ds.isEmpty || !rest.isEmpty then .error (.malformed base s)
    else
      let n : Int := Text.ofDigits base ds
      .ok (if negative then -n else n)

/-- The integer that a text spells in base ten, if it spells one. -/
def read? (s : String) : Option Int :=
  (read 10 s).toOption

/-- The numeral of an integer in base ten, unless it has too many digits. -/
def write (n : Int) : Except NumeralFault String :=
  if n.natAbs < Nat.pow 10 digitLimit then .ok (toString n) else .error .tooLongToWrite

end Numeral

/-- The words for a numeral fault; a long text is cut after two hundred characters. -/
def NumeralFault.message : NumeralFault → String
  | .malformed base text =>
    "invalid literal for int() with base " ++ toString base ++ ": "
      ++ String.ofList ((Text.quoted text).toList.take 200)
  | .tooManyDigits count =>
    "Exceeds the limit (" ++ toString Numeral.digitLimit
      ++ " digits) for integer string conversion: value has " ++ toString count
      ++ " digits; use sys.set_int_max_str_digits() to increase the limit"
  | .tooLongToWrite =>
    "Exceeds the limit (" ++ toString Numeral.digitLimit
      ++ " digits) for integer string conversion; use sys.set_int_max_str_digits() to increase the limit"

end ElementFinder

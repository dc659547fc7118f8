import ElementFinder.Text.Base64
import ElementFinder.Text.Case
import ElementFinder.Value.Double
import ElementFinder.Yaml.PlainKind

/-!
# Values of texts

The value that a text stands for when its kind is known. A tag can give a text a kind that its form
does not show, and then the text may stand for no value.
-/

namespace ElementFinder.Yaml

def noValue {α : Type} (f : Failure) : Except Fault α := .error (.value f)

/-- The sign in front of a number, and the number without it; there has to be something to look at. -/
def signed (cs : List Char) : Except Fault (Bool × List Char) :=
  match cs with
  | [] => noValue .outOfRange
  | c :: rest => .ok (c == '-', if c == '-' || c == '+' then rest else cs)

def integerIn (base : Nat) (cs : List Char) : Except Fault Int :=
  (Numeral.read base (String.ofList cs)).mapError fun f => .value (.numeral f)

def unsignedInteger (cs : List Char) : Except Fault Int := do
  match cs with
  | [] => noValue .outOfRange
  | ['0'] => return 0
  | '0' :: 'b' :: rest => integerIn 2 rest
  | '0' :: 'x' :: rest => integerIn 16 rest
  | '0' :: _ => integerIn 8 cs
  | _ =>
    if cs.contains ':' then
      let parts ← (Text.splitAt ':' cs).mapM (integerIn 10)
      return parts.foldl (fun n d => n * 60 + d) 0
    else integerIn 10 cs

/-- The integer of a text; underscores do not count. -/
def integer (cs : List Char) : Except Fault Int := do
  let (negative, ds) ← signed (cs.filter (· != '_'))
  let n ← unsignedInteger ds
  return if negative then -n else n

/-- The double of a decimal text. -/
def realIn (cs : List Char) : Except Fault Float :=
  (Value.toDouble (.text (String.ofList cs))).mapError .value

/-- The sum of parts in base sixty, the last part first. -/
def sumOfSixties : Float → Float → List Float → Float
  | _, total, [] => total
  | base, total, d :: rest => sumOfSixties (base * 60.0) (total + d * base) rest

/-- The size of a double by its form. -/
def unsignedReal (cs : List Char) : Except Fault Float := do
  if cs = ".inf".toList then return infinity
  else if cs = ".nan".toList then return notANumber
  else if cs.contains ':' then
    let parts ← (Text.splitAt ':' cs).mapM realIn
    return sumOfSixties 1.0 0.0 parts.reverse
  else realIn cs

/-- The double of a text; underscores and letter case do not count. -/
def real (text : String) : Except Fault Float := do
  let cs := (Text.lower (String.ofList (text.toList.filter (· != '_')))).toList
  let (negative, ds) ← signed cs
  let x ← unsignedReal ds
  return if negative then -x else x

/-- The truth value of a word, in any letter case. -/
def truth (text : String) : Except Fault Bool :=
  match Text.lower text with
  | "yes" | "true" | "on" => .ok true
  | "no" | "false" | "off" => .ok false
  | word => noValue (.key word)

/-- The bytes of a text in base sixty-four. -/
def binary (cs : List Char) : Except Fault (List UInt8) :=
  if cs.any fun c => 0x80 ≤ c.toNat then malformed "failed to convert base64 data into ascii"
  else match Base64.decode? cs with
    | some bs => .ok bs
    | none => malformed "failed to decode base64 data"

/-- The date or the moment of a text; each has to exist in the calendar. -/
def timestamp (cs : List Char) : Except Fault Value :=
  match Timestamp.read? (dropFinalFeed cs) with
  | none => noValue (.other "AttributeError" "")
  | some (.date d) =>
    match d.fault? with
    | some f => noValue (.value f)
    | none => .ok (.date d)
  | some (.moment m) =>
    match m.fault? with
    | some f => noValue (.value f)
    | none => .ok (.moment m)

/-- The value of a text of a kind that texts can have. -/
def scalarValue (tag : Tag) (text : String) : Except Fault Value :=
  match tag with
  | .null => .ok .null
  | .bool => (truth text).map .bool
  | .int => (integer text.toList).map .int
  | .float => (real text).map .float
  | .binary => (binary text.toList).map .bytes
  | .timestamp => timestamp text.toList
  | .text => .ok (.text text)
  | _ => malformed "could not determine a constructor for the tag"

end ElementFinder.Yaml

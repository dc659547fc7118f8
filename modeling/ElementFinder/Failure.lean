import ElementFinder.Number.Basic
import ElementFinder.Number.Numeral
import ElementFinder.Text.Quoted
import ElementFinder.Text.Search

/-!
# Failures

Everything that can go wrong. The failures of the library itself form one family; the others come
from numbers, keys and types of data.
-/

namespace ElementFinder

/-- One way in which an element was looked for, and why it was not found that way. -/
structure LocatorAttempt where
  kind : String
  locator : String
  error : Option String := none
  deriving DecidableEq, Repr

/-- What went wrong. -/
inductive Failure where
  | general (text : String)
  | config (text : String)
  | parse (text : String)
  | query (text : String) (status : Option Int)
  | anchorNotFound (anchor relation : String)
  | noMatch (selector : String) (detail : Option String)
  | deadline (text : String) (wrapped : Option Failure) (description : Option String)
      (timeout : Option Number) (attemptCount : Option Int) (elapsed : Option Number)
      (attempts : List LocatorAttempt) (artifacts : List (String × String))
  | value (text : String)
  | runtime (text : String)
  | key (name : String)
  | other (kind text : String)
  deriving Inhabited

namespace Failure

/-- A number too large for the place it goes to. -/
def overflow : Failure := .other "OverflowError" ""

/-- A value of a kind that cannot be used in its place. -/
def wrongType : Failure := .other "TypeError" ""

def outOfRange : Failure := .other "IndexError" ""

/-- Bytes that are no text. -/
def undecodable : Failure := .other "UnicodeDecodeError" ""

/-- Data that would go on for ever. -/
def endless : Failure := .other "RecursionError" ""

def numeral (fault : NumeralFault) : Failure := .value fault.message

def kindName : Failure → String
  | .general _ => "UIAutoError"
  | .config _ => "ConfigError"
  | .parse _ => "ParseError"
  | .query _ _ => "QueryError"
  | .anchorNotFound _ _ => "AnchorNotFoundError"
  | .noMatch _ _ => "NoMatchError"
  | .deadline .. => "DeadlineExceededError"
  | .value _ => "ValueError"
  | .runtime _ => "RuntimeError"
  | .key _ => "KeyError"
  | .other kind _ => kind

/-- The failure is one of the library's own family. -/
def isOwn : Failure → Bool
  | .general _ | .config _ | .parse _ | .query _ _ | .anchorNotFound _ _ | .noMatch _ _
  | .deadline .. => true
  | _ => false

def isQuery : Failure → Bool
  | .query _ _ => true
  | _ => false

/-- The failure is that of reading a page. -/
def isParse : Failure → Bool
  | .parse _ => true
  | _ => false

/-- The names of the wider kinds that a kind outside the library's family belongs to. -/
def widerKinds (kind : String) : List String :=
  if kind = "KeyError" ∨ kind = "IndexError" then ["LookupError"]
  else if kind = "OverflowError" ∨ kind = "ZeroDivisionError" ∨ kind = "FloatingPointError" then
    ["ArithmeticError"]
  else if kind = "UnicodeDecodeError" ∨ kind = "UnicodeEncodeError" then ["UnicodeError", "ValueError"]
  else if kind = "UnicodeError" then ["ValueError"]
  else if kind = "RecursionError" ∨ kind = "NotImplementedError" then ["RuntimeError"]
  else []

/-- The failure belongs to the kind with the given name. -/
def isA (f : Failure) (name : String) : Bool :=
  f.kindName = name || name = "Exception" || name = "BaseException"
    || (if f.isOwn then name = "UIAutoError" else (widerKinds f.kindName).contains name)

/-- The paths of written artifacts as they stand in a message. -/
def artifactsText (artifacts : List (String × String)) : String :=
  "\x7b" ++ Text.joined ", " (artifacts.map fun a => Text.quoted a.1 ++ ": " ++ Text.quoted a.2)
    ++ "\x7d"

/-- The details that a missed deadline adds to its text. -/
def deadlineDetails (wrapped : Option Failure) (attemptCount : Option Int)
    (elapsed : Option Number) (artifacts : List (String × String)) : List String :=
  (wrapped.map fun f => "Original exception: " ++ f.kindName).toList
    ++ (attemptCount.map fun n => "Attempts: " ++ toString n).toList
    ++ (elapsed.map fun t => "Elapsed: " ++ t.fixed 2 ++ "s").toList
    ++ (if artifacts.isEmpty then [] else ["Artifacts: " ++ artifactsText artifacts])

/-- The words for a failure. -/
def message : Failure → String
  | .general text | .config text | .parse text | .query text _ | .value text | .runtime text
  | .other _ text => text
  | .anchorNotFound anchor relation =>
    "anchor element not found for \x27" ++ relation ++ "\x27: \x27" ++ anchor ++ "\x27"
  | .noMatch selector detail =>
    "no elements match selector \x27" ++ selector ++ "\x27"
      ++ match detail with
        | none => ""
        | some d => if d.isEmpty then "" else ": " ++ d
  | .key k => Text.quoted k
  | .deadline text wrapped _ _ attemptCount elapsed _ artifacts =>
    let details := deadlineDetails wrapped attemptCount elapsed artifacts
    if details.isEmpty then text else text ++ " [" ++ Text.joined ", " details ++ "]"

def wrapped? : Failure → Option Failure
  | .deadline _ wrapped .. => wrapped
  | _ => none

/-- The end of the chain of wrapped failures. -/
def innermost : Failure → Failure
  | .deadline _ (some f) .. => f.innermost
  | f => f

/-- The failure at the bottom of what a missed deadline wraps. -/
def rootCause? (f : Failure) : Option Failure :=
  f.wrapped?.map innermost

/-- One line with the full name of the kind and the words. -/
def report (f : Failure) : String :=
  let name := if f.isOwn then "uiauto_wda.exceptions." ++ f.kindName else f.kindName
  let words := f.message
  if words.isEmpty then name ++ "\n" else name ++ ": " ++ words ++ "\n"

/-- The report on the failure that a missed deadline wraps; empty if there is none. -/
def wrappedReport (f : Failure) : String :=
  (f.wrapped?.map report).getD ""

end Failure

end ElementFinder

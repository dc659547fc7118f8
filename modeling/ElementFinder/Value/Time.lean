import ElementFinder.Text.Search

/-!
# Calendar dates and moments

The dates and times that a data text can hold, with their two written forms.
-/

namespace ElementFinder

/-- A calendar date. -/
structure Date where
  year : Nat
  month : Nat
  day : Nat
  deriving DecidableEq, Repr

/-- A date with a time of day and, if it is given, the distance to universal time in minutes. -/
structure Moment where
  date : Date
  hour : Nat
  minute : Nat
  second : Nat
  microsecond : Nat
  offset : Option Int
  deriving DecidableEq, Repr

/-- A number with zeros in front up to a width. -/
def padded (width n : Nat) : String :=
  let ds := Nat.toDigits 10 n
  String.ofList (List.replicate (width - ds.length) '0' ++ ds)

namespace Date

/-- Every fourth year is a leap year, but of the full centuries only every fourth. -/
def isLeap (year : Nat) : Bool :=
  year % 4 == 0 && (year % 100 != 0 || year % 400 == 0)

def daysIn (year month : Nat) : Nat :=
  match month with
  | 2 => if isLeap year then 29 else 28
  | 4 | 6 | 9 | 11 => 30
  | _ => 31

/-- What is wrong with a date, if something is. -/
def fault? (d : Date) : Option String :=
  if d.year < 1 ∨ 9999 < d.year then some ("year " ++ toString d.year ++ " is out of range")
  else if d.month < 1 ∨ 12 < d.month then some "month must be in 1..12"
  else if d.day < 1 ∨ daysIn d.year d.month < d.day then some "day is out of range for month"
  else none

/-- The number of the day, counted from the first day of the calendar. -/
def dayNumber (d : Date) : Nat :=
  let years := d.year - 1
  let months := (List.range (d.month - 1)).foldl (fun days m => days + daysIn d.year (m + 1)) 0
  years * 365 + years / 4 - years / 100 + years / 400 + months + d.day

/-- Year, month and day with hyphens. -/
def text (d : Date) : String :=
  padded 4 d.year ++ "-" ++ padded 2 d.month ++ "-" ++ padded 2 d.day

def parts (d : Date) : List String :=
  [toString d.year, toString d.month, toString d.day]

/-- The date as it stands inside a collection. -/
def display (d : Date) : String :=
  "datetime.date(" ++ Text.joined ", " d.parts ++ ")"

end Date

namespace Moment

/-- A length of time in whole minutes, as days and seconds of the day. -/
def displayLength (minutes : Int) : String :=
  let days := minutes.fdiv 1440
  let seconds := minutes.fmod 1440 * 60
  let shown :=
    (if days = 0 then [] else ["days=" ++ toString days])
      ++ (if seconds = 0 then [] else ["seconds=" ++ toString seconds])
  "datetime.timedelta(" ++ (if shown.isEmpty then "0" else Text.joined ", " shown) ++ ")"

/-- What is wrong with a moment, if something is: its distance to universal time is checked first. -/
def fault? (m : Moment) : Option String :=
  let far := match m.offset with
    | some o => decide (o ≤ -1440 ∨ 1440 ≤ o)
    | none => false
  if far then
    some ("offset must be a timedelta strictly between -timedelta(hours=24) and timedelta(hours=24), not "
      ++ displayLength (m.offset.getD 0) ++ ".")
  else m.date.fault?.orElse fun _ =>
    if 24 ≤ m.hour then some "hour must be in 0..23"
    else if 60 ≤ m.minute then some "minute must be in 0..59"
    else if 60 ≤ m.second then some "second must be in 0..59"
    else none

/-- The microseconds from the beginning of the calendar to the moment, in universal time; none if the
distance to it is not given. -/
def universal? (m : Moment) : Option Int :=
  m.offset.map fun o =>
    let minutes : Int := ((m.date.dayNumber * 24 + m.hour) * 60 + m.minute : Nat) - o
    (minutes * 60 + m.second) * 1000000 + m.microsecond

/-- Two moments are the same; where the distance to universal time is given, the time there counts. -/
def same (a b : Moment) : Bool :=
  match a.universal?, b.universal? with
  | some x, some y => x == y
  | none, none => a == b
  | _, _ => false

/-- The distance to universal time, as it follows a time of day. -/
def offsetText (minutes : Int) : String :=
  let n := minutes.natAbs
  (if minutes < 0 then "-" else "+") ++ padded 2 (n / 60) ++ ":" ++ padded 2 (n % 60)

/-- Date and time of day with a space between them. -/
def text (m : Moment) : String :=
  m.date.text ++ " " ++ padded 2 m.hour ++ ":" ++ padded 2 m.minute ++ ":" ++ padded 2 m.second
    ++ (if m.microsecond = 0 then "" else "." ++ padded 6 m.microsecond)
    ++ (m.offset.map offsetText).getD ""

/-- The moment as it stands inside a collection; seconds are left out when nothing follows. -/
def display (m : Moment) : String :=
  let zone := match m.offset with
    | none => []
    | some 0 => ["tzinfo=datetime.timezone.utc"]
    | some o => ["tzinfo=datetime.timezone(" ++ displayLength o ++ ")"]
  let fine :=
    if m.microsecond ≠ 0 then [toString m.second, toString m.microsecond]
    else if m.second ≠ 0 then [toString m.second]
    else []
  "datetime.datetime("
    ++ Text.joined ", " (m.date.parts ++ [toString m.hour, toString m.minute] ++ fine ++ zone) ++ ")"

end Moment

end ElementFinder

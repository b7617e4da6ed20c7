import BuildLauncher.Number.Decimal

/-!
# Dates and times

Moments are told by the calendar and the clock, to the microsecond. Those without an offset are
local times.
-/
namespace BuildLauncher

structure Date where
  year : Nat
  month : Nat
  day : Nat
deriving DecidableEq, Repr

structure TimeOfDay where
  hour : Nat
  minute : Nat
  second : Nat
  microsecond : Nat
deriving DecidableEq, Repr

/-- A date, a time of day, or both, the latter perhaps at an offset from universal time. -/
inductive Moment
  | date (d : Date)
  | time (t : TimeOfDay)
  | dateTime (d : Date) (t : TimeOfDay) (offsetMinutes : Option Int)
deriving DecidableEq, Repr

def isLeapYear (year : Nat) : Bool :=
  year % 4 = 0 && (year % 100 ≠ 0 || year % 400 = 0)

def daysInMonth (year month : Nat) : Nat :=
  match month with
  | 2 => if isLeapYear year then 29 else 28
  | 4 | 6 | 9 | 11 => 30
  | _ => 31

/-- Does the date exist? The calendar starts with the year 1. -/
def Date.exists (d : Date) : Bool :=
  1 ≤ d.year && 1 ≤ d.month && d.month ≤ 12 && 1 ≤ d.day && d.day ≤ daysInMonth d.year d.month

def padded (width n : Nat) : String :=
  String.ofList (Binary64.padLeft width '0' (Nat.toDigits 10 n))

def Date.text (d : Date) : String :=
  padded 4 d.year ++ "-" ++ padded 2 d.month ++ "-" ++ padded 2 d.day

def TimeOfDay.text (t : TimeOfDay) : String :=
  padded 2 t.hour ++ ":" ++ padded 2 t.minute ++ ":" ++ padded 2 t.second ++
    (if t.microsecond = 0 then "" else "." ++ padded 6 t.microsecond)

def offsetText (minutes : Int) : String :=
  (if minutes < 0 then "-" else "+") ++
    padded 2 (minutes.natAbs / 60) ++ ":" ++ padded 2 (minutes.natAbs % 60)

/-- The text of a moment in the order of its parts, from years to fractions of seconds. -/
def Moment.text : Moment → String
  | .date d => d.text
  | .time t => t.text
  | .dateTime d t offset => d.text ++ "T" ++ t.text ++ (offset.map offsetText).getD ""

/-- The parts of a time; seconds and fractions are left out where they are zero. -/
def TimeOfDay.parts (t : TimeOfDay) : List String :=
  [toString t.hour, toString t.minute] ++
    (if t.second = 0 && t.microsecond = 0 then [] else [toString t.second]) ++
    (if t.microsecond = 0 then [] else [toString t.microsecond])

def Date.parts (d : Date) : List String := [toString d.year, toString d.month, toString d.day]

/-- An offset in whole days and seconds, the seconds never negative. -/
def offsetParts (minutes : Int) : String :=
  if minutes = 0 then "tzinfo=datetime.timezone.utc"
  else
    let seconds := (minutes * 60) % 86400
    let days := (minutes * 60) / 86400
    let parts := (if days = 0 then [] else ["days=" ++ toString days]) ++
      (if seconds = 0 then [] else ["seconds=" ++ toString seconds])
    "tzinfo=datetime.timezone(datetime.timedelta(" ++ ", ".intercalate parts ++ "))"

/-- A moment spelled as the call that builds it. -/
def Moment.shown : Moment → String
  | .date d => "datetime.date(" ++ ", ".intercalate d.parts ++ ")"
  | .time t => "datetime.time(" ++ ", ".intercalate t.parts ++ ")"
  | .dateTime d t offset =>
    let parts := d.parts ++ t.parts ++ (offset.map offsetParts).toList
    "datetime.datetime(" ++ ", ".intercalate parts ++ ")"

end BuildLauncher

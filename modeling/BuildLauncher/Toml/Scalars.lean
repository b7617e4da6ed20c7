import BuildLauncher.Number.Digits
import BuildLauncher.Toml.Fault
import BuildLauncher.Value.Basic

/-!
# TOML numbers, dates and times

Each reader gives nothing where its kind of scalar does not stand next.
-/
namespace BuildLauncher.Toml

def isDecimal (c : Char) : Bool := isDigitOf 10 c

/-- The number of the next two digits, if it lies between `least` and `greatest`. -/
def twoDigits? (least greatest : Nat) (s : List Char) : Option (Nat × List Char) :=
  match s with
  | a :: b :: rest =>
    let n := ofDigits 10 [a, b]
    if isDecimal a && isDecimal b && least ≤ n && n ≤ greatest then some (n, rest) else none
  | _ => none

def mark? (c : Char) (s : List Char) : Option (List Char) :=
  if s.head? = some c then some (s.drop 1) else none

def date? (s : List Char) : Option (Date × List Char) := do
  let year := s.take 4
  guard (year.length = 4 && year.all isDecimal)
  let (month, s) ← twoDigits? 1 12 (← mark? '-' (s.drop 4))
  let (day, s) ← twoDigits? 1 31 (← mark? '-' s)
  return (⟨ofDigits 10 year, month, day⟩, s)

/-- The microseconds of a fraction; digits beyond the sixth do not count. -/
def fraction (s : List Char) : Nat × List Char :=
  match s with
  | '.' :: rest =>
    let digits := rest.takeWhile isDecimal
    if digits.isEmpty then (0, s)
    else (ofDigits 10 ((digits ++ List.replicate 6 '0').take 6), rest.dropWhile isDecimal)
  | _ => (0, s)

def time? (s : List Char) : Option (TimeOfDay × List Char) := do
  let (hour, s) ← twoDigits? 0 23 s
  let (minute, s) ← twoDigits? 0 59 (← mark? ':' s)
  let (second, s) ← twoDigits? 0 59 (← mark? ':' s)
  let (microsecond, s) := fraction s
  return (⟨hour, minute, second, microsecond⟩, s)

/-- The minutes of an offset from universal time. -/
def offset? (s : List Char) : Option (Int × List Char) :=
  match s with
  | c :: rest =>
    if c = 'Z' || c = 'z' then some (0, rest)
    else if c = '+' || c = '-' then do
      let (hours, rest) ← twoDigits? 0 23 rest
      let (minutes, rest) ← twoDigits? 0 59 (← mark? ':' rest)
      return (signed (c = '-') (60 * hours + minutes), rest)
    else none
  | [] => none

/-- The time of day after a date, with its offset. -/
def timeAfterDate? (s : List Char) : Option ((TimeOfDay × Option Int) × List Char) :=
  match s with
  | c :: rest =>
    if c = 'T' || c = 't' || c = ' ' then do
      let (time, rest) ← time? rest
      match offset? rest with
      | some (minutes, rest) => return ((time, some minutes), rest)
      | none => return ((time, none), rest)
    else none
  | [] => none

/-- A date, a time, or both. -/
def moment? (s : List Char) : Option (Moment × List Char) :=
  match date? s with
  | some (date, rest) =>
    match timeAfterDate? rest with
    | some ((time, offset), rest) => some (.dateTime date time offset, rest)
    | none => some (.date date, rest)
  | none => (time? s).map fun (time, rest) => (.time time, rest)

/-- Does the date of a moment exist? -/
def momentExists : Moment → Bool
  | .date d => d.exists
  | .dateTime d _ _ => d.exists
  | .time _ => true

/-- The digits that follow a first one, each perhaps after one underscore. -/
def moreDigits (base : Nat) : List Char → List Char × List Char
  | [] => ([], [])
  | c :: rest =>
    if isDigitOf base c then
      let (digits, after) := moreDigits base rest
      (c :: digits, after)
    else if c = '_' then
      match rest with
      | d :: rest' =>
        if isDigitOf base d then
          let (digits, after) := moreDigits base rest'
          (d :: digits, after)
        else ([], c :: rest)
      | [] => ([], c :: rest)
    else ([], c :: rest)

/-- Digits of `base`, at least one. -/
def digits? (base : Nat) (s : List Char) : Option (List Char × List Char) :=
  match s with
  | c :: rest =>
    if isDigitOf base c then
      let (digits, after) := moreDigits base rest
      some (c :: digits, after)
    else none
  | [] => none

/-- An integer after `0x`, `0o` or `0b`. -/
def based? (s : List Char) : Option (Value × List Char) :=
  match s with
  | '0' :: letter :: rest =>
    let base? := if letter = 'x' then some 16 else if letter = 'o' then some 8
      else if letter = 'b' then some 2 else none
    base?.bind fun base => (digits? base rest).map fun (digits, rest) =>
      (.int (ofDigits base digits), rest)
  | _ => none

def sign (s : List Char) : Option Char × List Char :=
  match s with
  | '+' :: rest => (some '+', rest)
  | '-' :: rest => (some '-', rest)
  | _ => (none, s)

/-- The digits before the point: a zero alone, or digits that start with another. -/
def whole? (s : List Char) : Option (List Char × List Char) :=
  match s with
  | '0' :: rest => some (['0'], rest)
  | _ => digits? 10 s

def fractionDigits (s : List Char) : Option (List Char) × List Char :=
  match s with
  | '.' :: rest =>
    match digits? 10 rest with
    | some (digits, rest) => (some digits, rest)
    | none => (none, s)
  | _ => (none, s)

def exponent (s : List Char) : Option Int × List Char :=
  match s with
  | e :: rest =>
    if e = 'e' || e = 'E' then
      let (negative, rest) := sign rest
      match digits? 10 rest with
      | some (digits, rest) => (some (signed (negative = some '-') (ofDigits 10 digits)), rest)
      | none => (none, s)
    else (none, s)
  | [] => (none, s)

/-- A decimal number; with a point or an exponent it is no integer. -/
def decimal? (s : List Char) : Option (Except Problem Value × List Char) := do
  let (sign, rest) := sign s
  let negative := sign = some '-'
  let (whole, rest) ← whole? rest
  let (part, rest) := fractionDigits rest
  let (power, rest) := exponent rest
  if part.isNone && power.isNone then
    if digitLimit < whole.length then return (.error (.hugeInteger whole.length), rest)
    return (.ok (.int (signed negative (ofDigits 10 whole))), rest)
  return (.ok (.float (Numeral.toBinary64 ⟨negative, whole, part.getD [], power.getD 0⟩)), rest)

/-- The numbers that are not finite. -/
def special? (s : List Char) : Option (Value × List Char) :=
  let (sign, rest) := sign s
  if "inf".toList.isPrefixOf rest then some (.float (.infinite (sign = some '-')), rest.drop 3)
  else if "nan".toList.isPrefixOf rest then some (.float .notANumber, rest.drop 3)
  else none

/-- A scalar other than a string or a truth value. -/
def readScalar (s : List Char) : Except Fault (Value × List Char) :=
  match moment? s with
  | some (moment, rest) =>
    if momentExists moment then .ok (.moment moment, rest) else fail .invalidDate s
  | none =>
    match based? s with
    | some found => .ok found
    | none =>
      match decimal? s with
      | some (.ok value, rest) => .ok (value, rest)
      | some (.error problem, _) => fail problem s
      | none =>
        match special? s with
        | some found => .ok found
        | none => fail .invalidValue s

end BuildLauncher.Toml

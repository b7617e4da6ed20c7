import BuildLauncher.Number.Places
import BuildLauncher.Value.Shown

/-!
# Templates

The text of an event is a template with places for values. A place starts with a percent sign and
ends with a letter that says how its value is written; between them stand the name of the value,
flags, a width, and the number of digits or characters.
-/
namespace BuildLauncher.Log

/-- A number in a place: left out, written out, or taken from the values. -/
inductive Extent
  | unsaid
  | said (n : Nat)
  | taken
deriving DecidableEq, Repr

/-- A place for a value. -/
structure Place where
  name : Option String
  flags : List Char
  width : Extent
  precision : Extent
  letter : Char
deriving DecidableEq, Repr

inductive Piece
  | char (c : Char)
  | place (p : Place)
deriving DecidableEq, Repr

/-- The name before the parenthesis that closes it, and what follows. Parentheses may be nested. -/
def splitName (depth : Nat) : List Char → Option (List Char × List Char)
  | [] => none
  | c :: rest =>
    if c = ')' && depth = 0 then some ([], rest)
    else
      let depth := if c = '(' then depth + 1 else if c = ')' then depth - 1 else depth
      (splitName depth rest).map fun (name, after) => (c :: name, after)

def readName? : List Char → Option (Option String × List Char)
  | '(' :: rest => (splitName 0 rest).map fun (name, after) => (some (String.ofList name), after)
  | s => some (none, s)

def readExtent (s : List Char) : Extent × List Char :=
  match s with
  | '*' :: rest => (.taken, rest)
  | _ =>
    let digits := s.takeWhile (isDigitOf 10)
    (if digits.isEmpty then .unsaid else .said (ofDigits 10 digits), s.drop digits.length)

/-- What follows a point; nothing means none at all. -/
def readPrecision : List Char → Extent × List Char
  | '.' :: rest =>
    match readExtent rest with
    | (.unsaid, after) => (.said 0, after)
    | read => read
  | s => (.unsaid, s)

/-- A letter for the size of a number in memory may stand before the last one and means nothing. -/
def dropSize : List Char → List Char
  | c :: rest => if ['h', 'l', 'L'].contains c then rest else c :: rest
  | [] => []

/-- The place whose percent sign has just been read, and the text after it. -/
def readPlace? (s : List Char) : Option (Place × List Char) := do
  let (name, s) ← readName? s
  let flags := s.takeWhile ("-+ #0".toList.contains ·)
  let (width, s) := readExtent (s.drop flags.length)
  let (precision, s) := readPrecision s
  match dropSize s with
  | letter :: rest => some (⟨name, flags, width, precision, letter⟩, rest)
  | [] => none

/-- The pieces of a template, where `skip` characters belong to the last place. A place that does
not end makes no template. -/
def piecesFrom (skip : Nat) : List Char → Option (List Piece)
  | [] => some []
  | c :: rest =>
    match skip with
    | skip + 1 => piecesFrom skip rest
    | 0 =>
      if c = '%' then
        match readPlace? rest with
        | some (p, after) => (piecesFrom (rest.length - after.length) rest).map (.place p :: ·)
        | none => none
      else (piecesFrom 0 rest).map (.char c :: ·)

/-- A filled place before it is brought to its width: a sign, a mark for the base, and the rest. -/
structure Filling where
  sign : List Char
  mark : List Char
  body : List Char

/-- The sign of a number; one that is not negative has one only where a flag asks for it. -/
def signFor (flags : List Char) (negative : Bool) : List Char :=
  if negative then ['-']
  else if flags.contains '+' then ['+']
  else if flags.contains ' ' then [' ']
  else []

/-- An integer in a base; `precision` is the least number of digits. -/
def integerFilling (p : Place) (precision base : Nat) (mark : List Char) (n : Int) : Filling where
  sign := signFor p.flags (n < 0)
  mark := if p.flags.contains '#' then mark else []
  body := Binary64.padLeft precision '0' (Nat.toDigits base n.natAbs)

/-- The integer part of a number; what is not finite has none. -/
def wholePart? : Value → Option Int
  | .int n => some n
  | .bool b => some (if b then 1 else 0)
  | .float (.finite x) =>
    let size := x.significand * Nat.pow 2 x.scale / Binary64.resolution
    some (signed x.negative size)
  | _ => none

def integer? : Value → Option Int
  | .float _ => none
  | v => wholePart? v

/-- The number that is meant where digits after a point are asked for. -/
def number? : Value → Option Binary64
  | .float x => some x
  | v =>
    match (integer? v).map Binary64.ofInt with
    | some (.infinite _) => none
    | number => number

/-- The size of a number in the form that a letter asks for. -/
def sizeText (p : Place) (precision : Nat) : Binary64 → List Char
  | .notANumber => "nan".toList
  | .infinite _ => "inf".toList
  | .finite x =>
    let full := p.flags.contains '#'
    let letter := p.letter.toLower
    if letter = 'f' then x.fixedText precision full
    else if letter = 'e' then x.powerText precision full
    else x.generalText (max 1 precision) full

def isNegative : Binary64 → Bool
  | .notANumber => false
  | .infinite negative => negative
  | .finite x => x.negative

/-- One character: a text of one, or the one with a number. -/
def character? : Value → Option Char
  | .text s =>
    match s.toList with
    | [c] => some c
    | _ => none
  | v => (integer? v).bind fun n =>
    if 0 ≤ n && n.toNat.isValidChar then some (Char.ofNat n.toNat) else none

/-- A text in ASCII, with escapes for all other characters. -/
def asciiOnly (s : String) : List Char :=
  s.toList.flatMap fun c => if c.toNat < 0x80 then [c] else Text.escapeHidden c

def upper (f : Filling) : Filling :=
  { f with mark := f.mark.map Char.toUpper, body := f.body.map Char.toUpper }

/-- The filling that a letter asks for. -/
def fill? (p : Place) (precision : Option Nat) (v : Value) : Option Filling :=
  let text (s : List Char) : Filling := ⟨[], [], (precision.map s.take).getD s⟩
  let least := precision.getD 0
  match p.letter with
  | 's' => some (text v.display.toList)
  | 'r' => some (text v.shown.toList)
  | 'a' => some (text (asciiOnly v.shown))
  | 'c' => (character? v).map fun c => ⟨[], [], [c]⟩
  | 'd' | 'i' | 'u' => (wholePart? v).map (integerFilling p least 10 [])
  | 'o' => (integer? v).map (integerFilling p least 8 ['0', 'o'])
  | 'x' => (integer? v).map (integerFilling p least 16 ['0', 'x'])
  | 'X' => (integer? v).map fun n => upper (integerFilling p least 16 ['0', 'x'] n)
  | 'e' | 'f' | 'g' | 'E' | 'F' | 'G' =>
    (number? v).map fun x =>
      let filling : Filling :=
        ⟨signFor p.flags (isNegative x), [], sizeText p (precision.getD 6) x⟩
      if p.letter.isUpper then upper filling else filling
  | _ => none

/-- Is the value of a letter a number, so that zeros may stand before it? -/
def isNumeric (letter : Char) : Bool := ! ['s', 'r', 'a', 'c'].contains letter

/-- A filling with blanks, or with zeros after its sign and mark, up to a width. -/
def align (p : Place) (left : Bool) (width : Nat) (f : Filling) : List Char :=
  let missing := width - (f.sign.length + f.mark.length + f.body.length)
  let all := f.sign ++ f.mark ++ f.body
  if left then all ++ List.replicate missing ' '
  else if p.flags.contains '0' && isNumeric p.letter then
    f.sign ++ f.mark ++ List.replicate missing '0' ++ f.body
  else List.replicate missing ' ' ++ all

/-- The values of a template: those with names, and the rest in their order. -/
structure Supply where
  named : Option Fields
  rest : List Value

/-- The number for an extent, and the values after it. -/
def Supply.extent? (s : Supply) : Extent → Option (Option Int × Supply)
  | .unsaid => some (none, s)
  | .said n => some (some n, s)
  | .taken =>
    match s.rest with
    | v :: rest => (integer? v).map fun n => (some n, { s with rest })
    | [] => none

/-- The value for a place, and the values after it. -/
def Supply.value? (s : Supply) : Option String → Option (Value × Supply)
  | none =>
    match s.rest with
    | v :: rest => some (v, { s with rest })
    | [] => none
  | some name => (s.named.bind (·.get? name)).map fun v => (v, { s with rest := [] })

/-- The text of a place. A negative width stands for blanks on the right. -/
def placeText? (p : Place) (s : Supply) : Option (List Char × Supply) := do
  if p.letter = '%' then return (['%'], s)
  let (width, s) ← s.extent? p.width
  let (precision, s) ← s.extent? p.precision
  let (v, s) ← s.value? p.name
  let filling ← fill? p (precision.map Int.toNat) v
  let width := width.getD 0
  return (align p (p.flags.contains '-' || width < 0) width.natAbs filling, s)

/-- The text of pieces. Values that are left over do not fit, unless they have names. -/
def piecesText? (s : Supply) : List Piece → Option (List Char)
  | [] => if s.named.isSome || s.rest.isEmpty then some [] else none
  | .char c :: rest => (piecesText? s rest).map (c :: ·)
  | .place p :: rest => do
    let (text, s) ← placeText? p s
    return text ++ (← piecesText? s rest)

/-- The values that a template is filled with. A single object gives its fields by their names. -/
def Supply.ofValues : List Value → Supply
  | [.object fields] => ⟨if fields.isEmpty then none else some fields, [.object fields]⟩
  | values => ⟨none, values⟩

/-- The text of an event. Without values the template is the text, and so is a template that its
values do not fit. -/
def eventText (template : String) (values : List Value) : String :=
  if values.isEmpty then template
  else
    let filled := (piecesFrom 0 template.toList).bind (piecesText? (.ofValues values))
    (filled.map String.ofList).getD template

end BuildLauncher.Log

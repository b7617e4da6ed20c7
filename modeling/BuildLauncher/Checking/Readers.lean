import BuildLauncher.Checking.Checked
import BuildLauncher.Number.Digits
import BuildLauncher.Text.Blank

/-!
# Reading parts of an input

Truth values and integers are also read from texts and numbers that plainly mean them. A text is
read from nothing but a text.
-/
namespace BuildLauncher.Checking

open Checked (fault)

def asText : Value → Checked String
  | .text s => .valid s
  | v => fault .notText v

/-- Words for truth values, in any case of letters. -/
def falseWords : List String := ["0", "off", "f", "false", "n", "no"]
def trueWords : List String := ["1", "on", "t", "true", "y", "yes"]

def boolOfWord? (s : String) : Option Bool :=
  let word := String.ofList (s.toList.map Char.toLower)
  if falseWords.contains word then some false
  else if trueWords.contains word then some true
  else none

def boolOfInt? (n : Int) : Option Bool :=
  if n = 0 then some false else if n = 1 then some true else none

/-- Positive integers of 64 bits are less. -/
def wordLimit : Nat := 0x8000000000000000

/-- Is the integer one of 64 bits? Others are not even tried as truth values. -/
def isWord (n : Int) : Bool := -(wordLimit : Int) ≤ n && n < wordLimit

/-- The 64-bit integer that a number equals. The least one does not count. -/
def wordOf? (x : Binary64.Finite) : Option Int :=
  x.toInt?.filter fun n => n.natAbs < wordLimit

def asBool (v : Value) : Checked Bool :=
  let orElse (read? : Option Bool) :=
    match read? with
    | some b => .valid b
    | none => fault .unreadableBool v
  match v with
  | .bool b => .valid b
  | .text s => orElse (boolOfWord? s)
  | .int n => if isWord n then orElse (boolOfInt? n) else fault .notBool v
  | .float (.finite x) =>
    match wordOf? x with
    | some n => orElse (boolOfInt? n)
    | none => fault .notBool v
  | _ => fault .notBool v

/-- Splits off a minus sign. -/
def minus (s : List Char) : Bool × List Char :=
  match s with
  | '-' :: rest => (true, rest)
  | _ => (false, s)

/-- Are the digits those of a number without leading zeros? -/
def isPlainNumber (digits : List Char) : Bool :=
  digits.all (isDigitOf 10) && (digits = ['0'] || digits.head?.any (· ≠ '0'))

/-- The integer that a plain text writes: digits without leading zeros, perhaps after a minus sign,
and not more characters than may be read. -/
def plainInteger? (s : List Char) : Option Int :=
  let (negative, digits) := minus s
  if s.length ≤ digitLimit && isPlainNumber digits then some (signed negative (ofDigits 10 digits))
  else none

/-- Does the text start with more digits than may be read? A minus sign counts as one. -/
def startsHuge (s : List Char) : Bool :=
  let (negative, digits) := minus s
  let count := (digits.takeWhile (isDigitOf 10)).length
  digits.head? ≠ some '0' && 0 < count && digitLimit < count + negative.toNat

/-- Underscores between digits are dropped unless one of them stands at an end or beside another. -/
def dropUnderscores (s : List Char) : List Char :=
  if s.head? = some '_' || s.getLast? = some '_' || (s.zip s.tail).contains ('_', '_') then s
  else s.filter (· ≠ '_')

/-- The text after leading zeros, which may have underscores among them. The last of them stays
where nothing or a point follows. -/
def dropZeros? (s : List Char) : Option (List Char) :=
  match s with
  | '0' :: rest =>
    let isLeading (c : Char) : Bool := c = '0' || c = '_'
    match rest.dropWhile isLeading with
    | [] => s.getLast?.map ([·])
    | '.' :: more => (('0' :: rest.takeWhile isLeading).getLast?).map (· :: '.' :: more)
    | c :: more => if isDigitOf 10 c || c = '-' then some (c :: more) else none
  | c :: _ => if isDigitOf 10 c || c = '-' then some s else none
  | [] => none

/-- The text before a point that only zeros follow. -/
def dropFraction (s : List Char) : List Char :=
  let fraction := (s.dropWhile (· ≠ '.')).drop 1
  if !fraction.isEmpty && fraction.all (· = '0') then s.takeWhile (· ≠ '.') else s

def dropPlus : List Char → List Char
  | '+' :: rest => rest
  | s => s

/-- The integer that a text means, as it stands or without what does not count. -/
def integerOfText? (s : List Char) : Option Int :=
  match plainInteger? s with
  | some n => some n
  | none => do
    let rest ← dropZeros? (dropPlus (Text.trim Text.isWhiteSpace s))
    plainInteger? (dropUnderscores (dropFraction rest))

def asInteger (v : Value) : Checked Int :=
  match v with
  | .int n => .valid n
  | .bool b => .valid (if b then 1 else 0)
  | .text s =>
    if startsHuge s.toList then fault .hugeInteger v
    else
      match integerOfText? s.toList with
      | some n => .valid n
      | none => fault .unreadableInteger v
  | .float (.finite x) =>
    match x.toInt?, wordOf? x with
    | some _, some n => .valid n
    | some _, none => fault .hugeInteger v
    | none, _ => fault .fractionalInteger v
  | .float _ => fault .notFinite v
  | _ => fault .notInteger v

def asListOf {α : Type} (check : Value → Checked α) : Value → Checked (List α)
  | .list values => Checked.items check 0 values
  | v => fault .notList v

def asTexts : Value → Checked (List String) := asListOf asText

def asObject : Value → Checked Fields
  | .object fields => .valid fields
  | v => fault .notObject v

/-- The fields of a model of a name. -/
def asModel (model : String) : Value → Checked Fields
  | .object fields => .valid fields
  | v => fault (.notModel model) v

def asOptional {α : Type} (check : Value → Checked α) : Value → Checked (Option α)
  | .null => .valid none
  | v => (check v).map some

/-- A field that has a default. -/
def field {α : Type} (fields : Fields) (name : String) (default : α) (check : Value → Checked α) :
    Checked α :=
  match fields.get? name with
  | none => .valid default
  | some v => (check v).under (.name name)

/-- A field that has to be there. -/
def required {α : Type} (fields : Fields) (name : String) (check : Value → Checked α) :
    Checked α :=
  match fields.get? name with
  | none => (fault .missing (.object fields)).under (.name name)
  | some v => (check v).under (.name name)

end BuildLauncher.Checking

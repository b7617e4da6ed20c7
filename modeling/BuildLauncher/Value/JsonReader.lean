import BuildLauncher.Number.Digits
import BuildLauncher.Value.Basic

/-!
# Reading JSON

The whole text has to be one value. Besides the standard's numbers the names of the numbers that are
not finite are read. A later field of an object replaces an earlier one of the same name.
-/
namespace BuildLauncher.Json

def isJsonBlank (c : Char) : Bool := c = ' ' || c = '\t' || c = '\n' || c = '\r'

def skipBlanks (s : List Char) : List Char := s.dropWhile isJsonBlank

/-- What an escape of one letter stands for. -/
def unescape? (c : Char) : Option Char :=
  if c = '"' || c = '\\' || c = '/' then some c
  else if c = 'b' then some (Char.ofNat 0x08)
  else if c = 'f' then some (Char.ofNat 0x0C)
  else if c = 'n' then some '\n'
  else if c = 'r' then some '\r'
  else if c = 't' then some '\t'
  else none

def isHighHalf (n : Nat) : Bool := 0xD800 ≤ n && n < 0xDC00
def isLowHalf (n : Nat) : Bool := 0xDC00 ≤ n && n < 0xE000

/-- Half of a pair without its partner stands for no character. -/
def replacement : Char := Char.ofNat 0xFFFD

/-- The rest of a string after its opening quote, and what follows the closing one. `half` is the
first half of a pair that has just been read, `read` the characters so far backwards. -/
def readString (half : Option Nat) (read : List Char) :
    List Char → Option (List Char × List Char)
  | [] => none
  | c :: rest =>
    let read' := if half.isSome then replacement :: read else read
    if c = '"' then some (read'.reverse, rest)
    else if c.toNat < 0x20 then none
    else if c ≠ '\\' then readString none (c :: read') rest
    else match rest with
      | [] => none
      | e :: rest =>
        if e ≠ 'u' then
          match unescape? e with
          | none => none
          | some d => readString none (d :: read') rest
        else match rest with
          | a :: b :: c :: d :: rest =>
            if [a, b, c, d].all (isDigitOf 16) then
              let n := ofDigits 16 [a, b, c, d]
              match half with
              | some high =>
                if isLowHalf n then
                  let code := 0x10000 + (high - 0xD800) * 0x400 + (n - 0xDC00)
                  readString none (Char.ofNat code :: read) rest
                else if isHighHalf n then readString (some n) read' rest
                else readString none (Char.ofNat n :: read') rest
              | none =>
                if isHighHalf n then readString (some n) read rest
                else if isLowHalf n then readString none (replacement :: read) rest
                else readString none (Char.ofNat n :: read) rest
            else none
          | _ => none

def isDigit (c : Char) : Bool := isDigitOf 10 c

/-- Whether a minus sign stands next, and what follows it. -/
def readSign : List Char → Bool × List Char
  | '-' :: rest => (true, rest)
  | s => (false, s)

/-- The digits of a whole number at the start of a text. After a zero in front there are no others. -/
def wholeDigits : List Char → List Char
  | '0' :: _ => ['0']
  | s => s.takeWhile isDigit

/-- The digits of a fraction, if a point and a digit stand next. -/
def readFraction (s : List Char) : List Char × List Char :=
  match s with
  | '.' :: rest =>
    let digits := rest.takeWhile isDigit
    if digits.isEmpty then ([], s) else (digits, rest.dropWhile isDigit)
  | _ => ([], s)

/-- The exponent, if one stands next. -/
def readExponent (s : List Char) : Option Int × List Char :=
  match s with
  | e :: rest =>
    if e = 'e' || e = 'E' then
      let (negative, digits) : Bool × List Char :=
        match rest with
        | '-' :: more => (true, more)
        | '+' :: more => (false, more)
        | _ => (false, rest)
      let power := digits.takeWhile isDigit
      if power.isEmpty then (none, s)
      else (some (signed negative (ofDigits 10 power)), digits.dropWhile isDigit)
    else (none, s)
  | [] => (none, s)

/-- A number without a point and an exponent is an integer. Where there is a limit, an integer of more
digits is not read. -/
def readNumber (limit : Option Nat) (s : List Char) : Option (Value × List Char) :=
  let (negative, digits) := readSign s
  let whole := wholeDigits digits
  if whole.isEmpty then none
  else
    let (part, rest) := readFraction (digits.drop whole.length)
    let (exponent, rest) := readExponent rest
    if part.isEmpty && exponent.isNone then
      if limit.any (· < whole.length) then none
      else some (.int (signed negative (ofDigits 10 whole)), rest)
    else some (.float (Numeral.toBinary64 ⟨negative, whole, part, exponent.getD 0⟩), rest)

/-- The words that stand for values. -/
def words : List (String × Value) := [
  ("null", .null), ("true", .bool true), ("false", .bool false), ("NaN", .float .notANumber),
  ("Infinity", .float (.infinite false)), ("-Infinity", .float (.infinite true))]

def readWord (s : List Char) : Option (Value × List Char) :=
  words.findSome? fun (word, value) =>
    if word.toList.isPrefixOf s then some (value, s.drop word.length) else none

mutual

/-- The value at the start of a text without leading blanks, nested at most `depth` deep. -/
def readValue (limit : Option Nat) (depth : Nat) (s : List Char) : Option (Value × List Char) :=
  match depth, s with
  | 0, _ => none
  | _ + 1, '"' :: rest =>
    (readString none [] rest).map fun (read, rest) => (.text (String.ofList read), rest)
  | depth + 1, '[' :: rest =>
    let rest := skipBlanks rest
    if rest.head? = some ']' then some (.list [], rest.drop 1)
    else readItems limit depth [] rest
  | depth + 1, c :: rest =>
    if c = '\x7b' then
      let rest := skipBlanks rest
      if rest.head? = some '\x7d' then some (.object [], rest.drop 1)
      else readFields limit depth [] rest
    else (readWord s).or (readNumber limit s)
  | _ + 1, [] => none

def readItems (limit : Option Nat) (depth : Nat) (items : List Value) (s : List Char) :
    Option (Value × List Char) :=
  match depth with
  | 0 => none
  | depth + 1 =>
    match readValue limit depth s with
    | none => none
    | some (item, rest) =>
      match skipBlanks rest with
      | ',' :: rest => readItems limit depth (item :: items) (skipBlanks rest)
      | ']' :: rest => some (.list (item :: items).reverse, rest)
      | _ => none

def readFields (limit : Option Nat) (depth : Nat) (fields : Fields) (s : List Char) :
    Option (Value × List Char) :=
  match depth, s with
  | depth + 1, '"' :: rest =>
    match readString none [] rest with
    | none => none
    | some (name, rest) =>
      match skipBlanks rest with
      | ':' :: rest =>
        match readValue limit depth (skipBlanks rest) with
        | none => none
        | some (value, rest) =>
          let fields := fields.set (String.ofList name) value
          match skipBlanks rest with
          | ',' :: rest => readFields limit depth fields (skipBlanks rest)
          | c :: rest => if c = '\x7d' then some (.object fields, rest) else none
          | [] => none
      | _ => none
  | _, _ => none

end

/-- The value of a text. Each level of nesting and each item takes a character of its own, so the
length of the text bounds the depth of the reading. A system may give up before (`Platform`). -/
def readWithin (limit : Option Nat) (s : String) : Option Value :=
  let chars := skipBlanks s.toList
  match readValue limit (chars.length + 1) chars with
  | some (value, rest) => if (skipBlanks rest).isEmpty then some value else none
  | none => none

/-- The value of a text whose integers are no longer than texts of integers may be. -/
def read? (s : String) : Option Value := readWithin (some digitLimit) s

end BuildLauncher.Json

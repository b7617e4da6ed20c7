import BuildLauncher.Expression.Token

/-!
# Escapes in quoted texts

A backslash starts an escape. Escapes for characters by their number or name may be wrong, and then
the text is.
-/
namespace BuildLauncher.Expression

def Quotation.isBytes (q : Quotation) : Bool := q.letters.contains 'b'
def Quotation.isRaw (q : Quotation) : Bool := q.letters.contains 'r'
def Quotation.isFormat (q : Quotation) : Bool := q.letters.contains 'f'

/-- A text in which characters outside ASCII are escapes. A backslash before one of them is an
escape as well. -/
def spellOut : List Char → List Char
  | '\\' :: c :: rest =>
    if isAscii c then '\\' :: c :: spellOut rest
    else '\\' :: 'u' :: Text.hex 4 '\\'.toNat ++ '\\' :: 'U' :: Text.hex 8 c.toNat ++ spellOut rest
  | c :: rest =>
    if isAscii c then c :: spellOut rest else '\\' :: 'U' :: Text.hex 8 c.toNat ++ spellOut rest
  | [] => []

/-- The letters of escapes with hexadecimal digits, how many they have, and what is said where there
are too few. -/
def hexEscapes : List (Char × Nat × String) := [
  ('x', 2, "truncated \\xXX escape"), ('u', 4, "truncated \\uXXXX escape"),
  ('U', 8, "truncated \\UXXXXXXXX escape")]

/-- The greatest number of a character. -/
def lastCharacter : Nat := 0x10FFFF

/-- May the character stand in the name of a character? -/
def isNameLetter (c : Char) : Bool := c.isAlphanum || c = ' ' || c = '-'

/-- What is wrong with the escape whose letter comes first: how many characters after the letter
belong to it, and why. -/
def escapeFault? (letter : Char) (s : List Char) : Option (Nat × String) :=
  match hexEscapes.lookup letter with
  | some (count, reason) =>
    let digits := (s.take count).takeWhile (isDigitOf 16)
    if digits.length < count then some (digits.length, reason)
    else if lastCharacter < ofDigits 16 digits then some (count, "illegal Unicode character")
    else none
  | none =>
    if letter ≠ 'N' then none
    else
      let malformed := "malformed \\N character escape"
      match s with
      | c :: rest =>
        if String.singleton c ≠ "\x7b" then some (0, malformed)
        else
          let name := rest.takeWhile fun d => String.singleton d ≠ "\x7d"
          if name.isEmpty || name.length = rest.length then some (1 + name.length, malformed)
          else if name.all isNameLetter then none
          else some (2 + name.length, "unknown Unicode character name")
      | [] => some (0, malformed)

/-- The first wrong escape of a text, where `skip` characters belong to one that is right. -/
def wrongEscapeFrom (skip position : Nat) : List Char → Option String
  | [] => none
  | c :: rest =>
    match skip, rest with
    | skip + 1, _ => wrongEscapeFrom skip (position + 1) rest
    | 0, letter :: after =>
      if c ≠ '\\' then wrongEscapeFrom 0 (position + 1) rest
      else
        match escapeFault? letter after with
        | some (count, reason) =>
          some ("(unicode error) 'unicodeescape' codec can't decode bytes in position " ++
            toString position ++ "-" ++ toString (position + 1 + count) ++ ": " ++ reason)
        | none => wrongEscapeFrom 1 (position + 1) rest
    | 0, [] => none

/-- The first wrong escape among bytes. Only numbers in two digits can be wrong there. -/
def wrongByteFrom (skip position : Nat) : List Char → Option String
  | [] => none
  | c :: rest =>
    match skip, rest with
    | skip + 1, _ => wrongByteFrom skip (position + 1) rest
    | 0, letter :: after =>
      if c ≠ '\\' then wrongByteFrom 0 (position + 1) rest
      else if letter = 'x' && ((after.take 2).takeWhile (isDigitOf 16)).length < 2 then
        some ("(value error) invalid \\x escape at position " ++ toString position)
      else wrongByteFrom 1 (position + 1) rest
    | 0, [] => none

/-- What is wrong with a quoted text. -/
def Quotation.fault? (q : Quotation) : Option String :=
  if q.isBytes then
    if !q.body.all isAscii then some "bytes can only contain ASCII literal characters"
    else if q.isRaw then none
    else wrongByteFrom 0 0 q.body
  else if q.isRaw then none
  else wrongEscapeFrom 0 0 (spellOut q.body)

/-- What is wrong with quoted texts side by side. All of them are bytes or none is. -/
def quotationsFault? (qs : List Quotation) : Option String :=
  match qs with
  | [] => none
  | first :: _ =>
    qs.firstM fun q =>
      match q.fault? with
      | some reason => some reason
      | none =>
        if q.isBytes = first.isBytes then none
        else some "cannot mix bytes and nonbytes literals"

end BuildLauncher.Expression

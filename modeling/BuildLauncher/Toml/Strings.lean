import BuildLauncher.Number.Digits
import BuildLauncher.Toml.Fault

/-!
# TOML strings, keys and comments

Each reader takes the text from where it stands and gives what it has read together with the rest.
-/
namespace BuildLauncher.Toml

def isSpace (c : Char) : Bool := c = ' ' || c = '\t'
def isSpaceOrNewline (c : Char) : Bool := isSpace c || c = '\n'
def skipSpace (s : List Char) : List Char := s.dropWhile isSpace
def skipSpaceAndNewlines (s : List Char) : List Char := s.dropWhile isSpaceOrNewline

def isControl (c : Char) : Bool := c.toNat < 0x20 || c.toNat = 0x7F

/-- Controls that may not stand in a string or comment; a newline may in a string of several lines.
-/
def isIllegal (multiline : Bool) (c : Char) : Bool :=
  isControl c && c ≠ '\t' && !(multiline && c = '\n')

/-- The text before and after the first place where `mark` stands. -/
def splitAtMark (mark : List Char) : List Char → Option (List Char × List Char)
  | [] => none
  | c :: rest =>
    if mark.isPrefixOf (c :: rest) then some ([], (c :: rest).drop mark.length)
    else (splitAtMark mark rest).map fun (before, after) => (c :: before, after)

/-- Refuses a text whose beginning of `count` characters holds an illegal one. -/
def checkLegal (multiline : Bool) (count : Nat) (s : List Char) : Except Fault Unit :=
  let legal := (s.take count).takeWhile (!isIllegal multiline ·)
  match s.drop legal.length with
  | c :: rest => if legal.length < count then fail (.invalidCharacter c) (c :: rest) else .ok ()
  | [] => .ok ()

/-- The text after a comment, if one stands next. -/
def skipComment (s : List Char) : Except Fault (List Char) :=
  match s with
  | '#' :: rest => do
    let comment := rest.takeWhile (· ≠ '\n')
    checkLegal false comment.length rest
    return rest.drop comment.length
  | _ => .ok s

/-- A string without escapes, up to its closing mark. -/
def readLiteral (multiline : Bool) (mark : String) (s : List Char) :
    Except Fault (List Char × List Char) :=
  match splitAtMark mark.toList s with
  | none => fail (.expectedDelimiter mark) []
  | some (content, rest) => do
    checkLegal multiline content.length s
    return (content, rest)

/-- What an escape of one letter stands for. -/
def unescape? (c : Char) : Option Char :=
  if c = '"' || c = '\\' then some c
  else if c = 'b' then some (Char.ofNat 0x08)
  else if c = 't' then some '\t'
  else if c = 'n' then some '\n'
  else if c = 'f' then some (Char.ofNat 0x0C)
  else if c = 'r' then some '\r'
  else none

def isScalar (n : Nat) : Bool := n < 0xD800 || (0xE000 ≤ n && n < 0x110000)

/-- The character whose code the next `count` hexadecimal digits write. -/
def readCode (count : Nat) (s : List Char) : Except Fault (Char × List Char) :=
  let digits := s.take count
  if digits.length < count || !digits.all (isDigitOf 16) then fail .invalidHex s
  else
    let code := ofDigits 16 digits
    if isScalar code then .ok (Char.ofNat code, s.drop count)
    else fail .invalidScalar (s.drop count)

/-- What a string with escapes is reading: its characters, the blanks between a backslash and the
end of its line, or the blanks after such a line. -/
inductive BasicState
  | plain
  | lineEnd
  | continued
deriving DecidableEq

/-- A string with escapes, up to its closing mark, with `read` its characters so far backwards. At
most `fuel` characters are read. -/
def readBasic (multiline : Bool) (fuel : Nat) (state : BasicState) (read : List Char)
    (s : List Char) : Except Fault (List Char × List Char) :=
  match fuel, s with
  | 0, _ | _, [] => fail .unterminatedString []
  | fuel + 1, c :: rest =>
    match state with
    | .lineEnd =>
      if isSpace c then readBasic multiline fuel .lineEnd read rest
      else if c = '\n' then readBasic multiline fuel .continued read rest
      else fail .strayBackslash s
    | .continued =>
      if isSpaceOrNewline c then readBasic multiline fuel .continued read rest
      else readBasic multiline fuel .plain read s
    | .plain =>
      if c = '"' then
        if !multiline then .ok (read.reverse, rest)
        else match rest with
          | '"' :: '"' :: rest => .ok (read.reverse, rest)
          | _ => readBasic multiline fuel .plain (c :: read) rest
      else if c = '\\' then
        match rest with
        | [] => fail .strayBackslash []
        | e :: rest =>
          if multiline && e = '\n' then readBasic multiline fuel .continued read rest
          else if multiline && isSpace e then readBasic multiline fuel .lineEnd read rest
          else if e = 'u' || e = 'U' then do
            let (d, rest) ← readCode (if e = 'u' then 4 else 8) rest
            readBasic multiline fuel .plain (d :: read) rest
          else match unescape? e with
            | some d => readBasic multiline fuel .plain (d :: read) rest
            | none => fail .strayBackslash rest
      else if isIllegal multiline c then fail (.illegalCharacter c) s
      else readBasic multiline fuel .plain (c :: read) rest

/-- Each character is read at most twice: as a blank it may end the blanks before it. -/
def readBasicString (multiline : Bool) (s : List Char) : Except Fault (List Char × List Char) :=
  readBasic multiline (2 * s.length + 1) .plain [] s

/-- Up to two further quotes before the closing mark belong to a string of several lines. -/
def extraQuotes (quote : Char) : List Char × List Char → List Char × List Char
  | (read, s) =>
    match s with
    | a :: b :: rest =>
      if a = quote && b = quote then (read ++ [quote, quote], rest)
      else if a = quote then (read ++ [quote], b :: rest)
      else (read, s)
    | [a] => if a = quote then (read ++ [quote], []) else (read, s)
    | [] => (read, s)

def dropNewline : List Char → List Char
  | '\n' :: rest => rest
  | s => s

/-- The string that starts with a quote. -/
def readString? (s : List Char) : Option (Except Fault (List Char × List Char)) :=
  match s with
  | '"' :: '"' :: '"' :: rest =>
    some ((readBasicString true (dropNewline rest)).map (extraQuotes '"'))
  | '"' :: rest => some (readBasicString false rest)
  | '\'' :: '\'' :: '\'' :: rest =>
    some ((readLiteral true "'''" (dropNewline rest)).map (extraQuotes '\''))
  | '\'' :: rest => some (readLiteral false "'" rest)
  | _ => none

def isBareKey (c : Char) : Bool := c.isAlphanum || c = '-' || c = '_'

/-- One name of a key. -/
def readName (s : List Char) : Except Fault (String × List Char) :=
  match s with
  | '\'' :: rest => do
    let (name, rest) ← readLiteral false "'" rest
    return (String.ofList name, rest)
  | '"' :: rest => do
    let (name, rest) ← readBasicString false rest
    return (String.ofList name, rest)
  | c :: _ =>
    if isBareKey c then .ok (String.ofList (s.takeWhile isBareKey), s.dropWhile isBareKey)
    else fail .invalidKey s
  | [] => fail .invalidKey s

/-- Names separated by points, at most `fuel` of them. A text with no more characters has no name. -/
def readNames (fuel : Nat) (s : List Char) : Except Fault (Key × List Char) :=
  match fuel with
  | 0 => fail .invalidKey s
  | fuel + 1 => do
    let (name, rest) ← readName s
    match skipSpace rest with
    | '.' :: rest =>
      let (names, rest) ← readNames fuel (skipSpace rest)
      return (name :: names, rest)
    | rest => return ([name], rest)

/-- A name takes a character or two quotes, so the length of the text bounds their number. -/
def readKey (s : List Char) : Except Fault (Key × List Char) := readNames (s.length + 1) s

end BuildLauncher.Toml

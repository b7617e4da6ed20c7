import BuildLauncher.Number.Digits
import BuildLauncher.Text.Digit
import BuildLauncher.Text.Printable
import BuildLauncher.Text.Quoted

/-!
# Tokens of an expression

An expression is made of names, numbers, quoted texts and marks. Brackets are matched as the tokens
are read, so that each token knows how many are open.
-/
namespace BuildLauncher.Expression

/-- A quoted text as it is written: the letters before its quotes, and what stands between them. -/
structure Quotation where
  letters : List Char
  body : List Char
deriving DecidableEq, Repr

/-- A token. Words of the language are marks like operators, and `indent` stands before a line that
starts with a blank. -/
inductive Token
  | name (s : String)
  | number (digits : List Char)
  | text (q : Quotation)
  | mark (s : String)
  | newline
  | indent
  | stop
deriving DecidableEq, Repr

def isName : Token → Bool
  | .name _ => true
  | _ => false

def Token.text? : Token → Option Quotation
  | .text q => some q
  | _ => none

def isText (t : Token) : Bool := t.text?.isSome

/-- A token with the number of brackets that are open after it, and its line. -/
structure Lexeme where
  token : Token
  depth : Nat
  line : Nat
deriving DecidableEq, Repr

/-- The open brackets, the innermost first, each with its line. -/
abbrev Opened := List (Char × Nat)

/-- How a text ends: as it should, with a bracket left open, or where no token can be read. What is
wrong with a line end matters only if the text is right up to there. -/
inductive Ending
  | complete
  | opened (bracket : Char) (line : Nat)
  | fault (reason : String)
  | lineFault (reason : String) (opened : Opened)
deriving DecidableEq, Repr

/-- The tokens of a text. -/
structure Lexed where
  lexemes : List Lexeme
  ending : Ending
deriving DecidableEq, Repr

/-- The words of the language. -/
def keywords : List String := [
  "False", "None", "True", "and", "as", "assert", "async", "await", "break", "class", "continue",
  "def", "del", "elif", "else", "except", "finally", "for", "from", "global", "if", "import", "in",
  "is", "lambda", "nonlocal", "not", "or", "pass", "raise", "return", "try", "while", "with",
  "yield"]

/-- Operators of more than one character, the longer ones first. -/
def longMarks : List String := [
  "**=", "//=", ">>=", "<<=", "...", "!=", "%=", "&=", "**", "*=", "+=", "-=", "->", "//", "/=",
  ":=", "<<", "<=", "<>", "==", ">=", ">>", "@=", "^=", "|="]

def isAscii (c : Char) : Bool := c.toNat < 0x80
def isDigit (c : Char) : Bool := isDigitOf 10 c

/-- May the character stand in a name, as far as that can be told before the name is looked at? -/
def isNamePart (c : Char) : Bool := c.isAlphanum || c = '_' || !isAscii c

/-- A character that does not belong where it stands, by its look and its number. -/
def strayCharacter (c : Char) : String :=
  let digits := (Text.hex 4 c.toNat).map Char.toUpper
  if Text.isPrintable c then
    "invalid character '" ++ String.singleton c ++ "' (U+" ++ String.ofList digits ++ ")"
  else "invalid non-printable character U+" ++ String.ofList digits

/-- The first character of a name that no name can have there. -/
def strayIn? (name : List Char) : Option Char :=
  match name with
  | [] => none
  | c :: rest =>
    if !Text.isWordChar c || Text.isDecimal c then some c
    else rest.find? fun d => !Text.isWordChar d

/-- The text after digits, which may have single underscores between them. -/
def afterDigits (digit : Char → Bool) : List Char → Option (List Char)
  | '_' :: d :: rest => if digit d then afterDigits digit rest else none
  | ['_'] => none
  | d :: rest => if digit d then afterDigits digit rest else some (d :: rest)
  | [] => some []

/-- Words that may follow a number without a blank. Those that start with `i` may even go on. -/
def joinedWords : List String := ["and", "else", "for", "if", "in", "is", "or", "not"]

def startsJoinedWord (s : List Char) : Bool :=
  joinedWords.any fun w =>
    w.toList.isPrefixOf s && (w.toList.head? = some 'i' || !(s.drop w.length).head?.any isNamePart)

/-- The text after a number of a kind, which must not go on with a letter of ASCII. -/
def endNumber (kind : String) (s : List Char) : Except String (List Char) :=
  if s.head?.any (fun c => isAscii c && isNamePart c) && !startsJoinedWord s then
    .error ("invalid " ++ kind ++ " literal")
  else .ok s

def badDecimal {α : Type} : Except String α := .error "invalid decimal literal"

def digitsOrFault (s : List Char) : Except String (List Char) :=
  match afterDigits isDigit s with
  | some rest => .ok rest
  | none => badDecimal

/-- The text after the digits of a base, with `s` what follows the letter of the base. -/
def readBased (base : Nat) (kind : String) (s : List Char) : Except String (List Char) :=
  let digit := isDigitOf base
  let badDigit (c : Char) : Except String (List Char) :=
    .error ("invalid digit '" ++ String.singleton c ++ "' in " ++ kind ++ " literal")
  let bad : Except String (List Char) := .error ("invalid " ++ kind ++ " literal")
  let start := match s with
    | '_' :: rest => rest
    | _ => s
  match start with
  | c :: rest =>
    if !digit c then (if isDigit c then badDigit c else bad)
    else
      let digits := rest.takeWhile fun d => digit d || d = '_'
      match afterDigits digit rest with
      | some (d :: after) => if isDigit d then badDigit d else endNumber kind (d :: after)
      | some [] => .ok []
      | none =>
        match (rest.drop digits.length).head? with
        | some d => if isDigit d then badDigit d else bad
        | none => bad
  | [] => bad

/-- The text after a letter for an imaginary number, or after the number without one. -/
def readImaginary (s : List Char) : Except String (List Char) :=
  match s with
  | c :: rest =>
    if c = 'j' || c = 'J' then endNumber "imaginary" rest else endNumber "decimal" s
  | [] => .ok []

/-- The text after an exponent, if there is one, and what may follow it. -/
def readExponent (s : List Char) : Except String (List Char) :=
  match s with
  | c :: rest =>
    if c = 'e' || c = 'E' then
      match rest with
      | sign :: d :: after =>
        if sign = '+' || sign = '-' then
          if isDigit d then do readImaginary (← digitsOrFault after) else badDecimal
        else if isDigit sign then do readImaginary (← digitsOrFault (d :: after))
        else endNumber "decimal" s
      | [d] =>
        if isDigit d then .ok []
        else if d = '+' || d = '-' then badDecimal
        else endNumber "decimal" s
      | [] => endNumber "decimal" s
    else readImaginary s
  | [] => .ok []

/-- The text after a point and the digits that follow it. -/
def readFraction (s : List Char) : Except String (List Char) :=
  match s with
  | d :: rest => if isDigit d then do readExponent (← digitsOrFault rest) else readExponent s
  | [] => .ok []

/-- The text after the digits of a number that starts with a zero. -/
def readZeros (s : List Char) : Except String (List Char) := do
  let rest ← digitsOrFault s
  let digits := s.take (s.length - rest.length)
  match rest with
  | '.' :: after => readFraction after
  | c :: _ =>
    if ['e', 'E', 'j', 'J'].contains c then readExponent rest else leading digits rest
  | [] => leading digits []
where
  /-- A decimal integer has no zero before its other digits. -/
  leading (digits rest : List Char) : Except String (List Char) :=
    if digits.all fun d => d = '0' || d = '_' then endNumber "decimal" rest
    else
      .error ("leading zeros in decimal integer literals are not permitted; " ++
        "use an 0o prefix for octal integers")

/-- The text after the number that starts with a digit `c`. -/
def readNumber (c : Char) (s : List Char) : Except String (List Char) :=
  if c = '0' then
    match s with
    | b :: rest =>
      if b = 'x' || b = 'X' then readBased 16 "hexadecimal" rest
      else if b = 'o' || b = 'O' then readBased 8 "octal" rest
      else if b = 'b' || b = 'B' then readBased 2 "binary" rest
      else readZeros s
    | [] => .ok []
  else do
    match ← digitsOrFault s with
    | '.' :: rest => readFraction rest
    | rest => readExponent rest

/-- What is wrong with a number that is written well: a decimal integer may be too long. -/
def numberFault? (digits : List Char) : Option String :=
  let count := digits.countP isDigit
  if digitLimit < count && digits.all fun c => isDigit c || c = '_' then
    some (tooManyDigits count ++
      " - Consider hexadecimal for huge integer literals to avoid decimal conversion limits.")
  else none

/-- The characters before the end of a text between quotes, backwards, and what follows the quotes.
There are three quotes if the text is `long`, and otherwise it ends with the line. Without an end
nothing is left. -/
def readBody (quote : Char) (long : Bool) (body : List Char) :
    List Char → Option (List Char × List Char)
  | [] => none
  | '\\' :: c :: rest => readBody quote long (c :: '\\' :: body) rest
  | c :: rest =>
    if c = quote then
      if !long then some (body.reverse, rest)
      else
        match rest with
        | d :: e :: after =>
          if d = quote && e = quote then some (body.reverse, after)
          else readBody quote long (c :: body) (d :: e :: after)
        | _ => none
    else if c = '\n' && !long then none
    else readBody quote long (c :: body) rest

/-- A quoted text whose first quote has been read, and the text after it. -/
def readQuoted (line : Nat) (letters : List Char) (quote : Char) (s : List Char) :
    Except String (Token × List Char) :=
  let long := s.take 2 = [quote, quote]
  let start := if long then s.drop 2 else s
  match readBody quote long [] start with
  | some (body, rest) => .ok (.text ⟨letters, body⟩, rest)
  | none =>
    let kind := if long then "triple-quoted string" else "string"
    let last := if long then line + s.count '\n' else line
    .error ("unterminated " ++ kind ++ " literal (detected at line " ++ toString last ++ ")")

/-- Letters that may stand before a quote. -/
def quoteLetters : List String := ["b", "br", "f", "fr", "r", "rb", "rf", "u"]

/-- The token at the start of a text, and the text after it. -/
def readToken (line : Nat) (s : List Char) : Except String (Token × List Char) := do
  match s with
  | [] => return (.stop, [])
  | c :: rest =>
    if isDigit c then
      let after ← readNumber c rest
      return (.number (s.take (s.length - after.length)), after)
    else if c = '\'' || c = '"' then readQuoted line [] c rest
    else if isNamePart c then
      let name := s.takeWhile isNamePart
      let after := s.drop name.length
      let letters := name.map Char.toLower
      match after with
      | q :: body =>
        if (q = '\'' || q = '"') && quoteLetters.contains (String.ofList letters) then
          return ← readQuoted line letters q body
      | [] => pure ()
      if !name.all isAscii then
        if let some stray := strayIn? name then throw (strayCharacter stray)
      let word := String.ofList name
      return (if keywords.contains word then .mark word else .name word, after)
    else if c = '.' && rest.head?.any isDigit then
      let after ← readFraction rest
      return (.number (s.take (s.length - after.length)), after)
    else
      match longMarks.find? fun m => m.toList.isPrefixOf s with
      | some m => return (.mark m, s.drop m.length)
      | none =>
        if Text.isPrintable c then return (.mark (String.singleton c), rest)
        else throw (strayCharacter c)

/-- The brackets of an expression. -/
def brackets : List (Char × Char) := [('(', ')'), (Char.ofNat 0x7B, Char.ofNat 0x7D), ('[', ']')]

/-- The most brackets that may be open. -/
def depthLimit : Nat := 200

/-- The open brackets after a token. -/
def nextOpened (line : Nat) (opened : Opened) : Token → Except String Opened
  | .mark m =>
    match m.toList with
    | [c] =>
      if (brackets.lookup c).isSome then
        if depthLimit ≤ opened.length then .error "too many nested parentheses"
        else .ok ((c, line) :: opened)
      else if brackets.any (·.2 = c) then
        let closing := "'" ++ String.singleton c ++ "'"
        match opened with
        | [] => .error ("unmatched " ++ closing)
        | (o, first) :: rest =>
          if brackets.lookup o = some c then .ok rest
          else
            .error ("closing parenthesis " ++ closing ++ " does not match opening parenthesis '" ++
              String.singleton o ++ "'" ++
              (if first = line then "" else " on line " ++ toString first))
      else .ok opened
    | _ => .ok opened
  | _ => .ok opened

def isSpace (c : Char) : Bool := c = ' ' || c = '\t' || c.toNat = 0x0C

/-- The end of a text on a line. Where brackets are open no line ends. -/
def endOf (line : Nat) : Opened → Lexed
  | [] => ⟨[⟨.newline, 0, line⟩, ⟨.stop, 0, line + 1⟩], .complete⟩
  | (c, first) :: _ => ⟨[], .opened c first⟩

def Lexed.push (lexeme : Lexeme) (l : Lexed) : Lexed := { l with lexemes := lexeme :: l.lexemes }

/-- What a line has had so far: nothing, blanks, or tokens. -/
inductive LineState
  | empty
  | blank
  | filled
deriving DecidableEq, Repr

/-- A form feed starts the line again. -/
def LineState.afterSpace (state : LineState) (c : Char) : LineState :=
  if state = .filled then .filled else if c.toNat = 0x0C then .empty else .blank

/-- The tokens from a line on. `skip` characters belong to the last token. -/
def lexFrom (skip line : Nat) (state : LineState) (opened : Opened) : List Char → Lexed
  | [] => endOf line opened
  | c :: rest =>
    let line' := if c = '\n' then line + 1 else line
    match skip with
    | skip + 1 => lexFrom skip line' state opened rest
    | 0 =>
      if isSpace c then lexFrom 0 line (state.afterSpace c) opened rest
      else if c = '\n' then
        let after := lexFrom 0 line' .empty opened rest
        if state ≠ .filled || !opened.isEmpty then after else after.push ⟨.newline, 0, line⟩
      else if c = '#' then lexFrom (rest.takeWhile (· ≠ '\n')).length line state opened rest
      else if c = '\\' then
        match rest with
        | '\n' :: _ :: _ => lexFrom 1 line state opened rest
        | ['\n'] => ⟨[], .lineFault "unexpected EOF while parsing" opened⟩
        | _ => ⟨[], .lineFault "unexpected character after line continuation character" opened⟩
      else
        let fromToken :=
          match readToken line (c :: rest) with
          | .error reason => ⟨[], .fault reason⟩
          | .ok (token, after) =>
            match nextOpened line opened token with
            | .error reason => ⟨[], .fault reason⟩
            | .ok next =>
              (lexFrom (rest.length - after.length) line .filled next rest).push
                ⟨token, next.length, line⟩
        if state = .blank && opened.isEmpty then fromToken.push ⟨.indent, 0, line⟩ else fromToken

/-- Line ends of all kinds as newlines. -/
def unifyNewlines : List Char → List Char
  | '\r' :: '\n' :: rest => '\n' :: unifyNewlines rest
  | '\r' :: rest => '\n' :: unifyNewlines rest
  | c :: rest => c :: unifyNewlines rest
  | [] => []

def lex (s : List Char) : Lexed := lexFrom 0 1 .empty [] (unifyNewlines s)

end BuildLauncher.Expression

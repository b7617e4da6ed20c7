import BuildLauncher.Expression.Matching

/-!
# Literals

A literal is an expression that stands for its value alone: a number, a text, a word for a value, or
a collection of literals. Members of sets and keys of dictionaries must not change, so a collection
that may change is none of them.
-/
namespace BuildLauncher.Expression

/-- Why a text is no literal. -/
inductive Fault
  /-- It is no expression. -/
  | mistaken (reason : String)
  | nulCharacter
  | notLiteral
  /-- A pair of a dictionary is unpacked from another one and so has no key. -/
  | noKey
  /-- A part of a sum is too large for it. -/
  | tooLarge
  /-- A member or a key is a collection that may change. -/
  | mayChange (kind : String)
deriving DecidableEq, Repr

def Fault.message : Fault → String
  | .mistaken reason => reason
  | .nulCharacter => "source code string cannot contain null bytes"
  | .notLiteral => "malformed node or string on line 1"
  | .noKey => "malformed node or string: None"
  | .tooLarge => "int too large to convert to float"
  | .mayChange kind => "unhashable type: '" ++ kind ++ "'"

/-- What matters of a literal while it is read. -/
inductive Form
  /-- A number: is it imaginary, is there a sign, and if it is an integer, which one? -/
  | number (imaginary signed : Bool) (integer? : Option Nat)
  /-- The word for an empty set, before its parentheses. -/
  | setWord
  /-- Anything else, with the kind of collection that makes it one that may change. -/
  | value (changing? : Option String)
deriving DecidableEq, Repr

/-- The integer that digits write. -/
def integerOf? (digits : List Char) : Option Nat :=
  let digits := digits.filter (· ≠ '_')
  match digits with
  | '0' :: b :: rest =>
    if b = 'x' || b = 'X' then some (ofDigits 16 rest)
    else if b = 'o' || b = 'O' then some (ofDigits 8 rest)
    else if b = 'b' || b = 'B' then some (ofDigits 2 rest)
    else if digits.all isDigit then some 0 else none
  | _ => if digits.all isDigit then some (ofDigits 10 digits) else none

def numberForm (digits : List Char) : Form :=
  let imaginary := digits.getLast?.any fun c => c = 'j' || c = 'J'
  .number imaginary false (integerOf? digits)

/-- The form of a number after a sign. -/
def Form.withSign : Form → Except Fault Form
  | .number imaginary false integer? => .ok (.number imaginary true integer?)
  | _ => .error .notLiteral

/-- Integers from here on are beyond all binary fractions. -/
def integerLimit : Nat := Nat.pow 2 1024 - Nat.pow 2 970

/-- The form of the sum of a real number and an imaginary one. -/
def Form.plus : Form → Form → Except Fault Form
  | .number false _ integer?, .number true false _ =>
    if integer?.any (integerLimit ≤ ·) then .error .tooLarge else .ok (.value none)
  | _, _ => .error .notLiteral

/-- The kind of collection that makes a literal one that may change. -/
def Form.changing? : Form → Except Fault (Option String)
  | .number .. => .ok none
  | .setWord => .error .notLiteral
  | .value changing? => .ok changing?

def Form.assertLasting (f : Form) : Except Fault Unit := do
  if let some kind ← f.changing? then throw (.mayChange kind)

/-- The form of members in parentheses. A single one without a comma is itself. -/
def Form.ofTuple (forms : List Form) (hasComma : Bool) : Except Fault Form :=
  match forms, hasComma with
  | [form], false => .ok form
  | _, _ => do return .value ((← forms.mapM Form.changing?).findSome? id)

def isSign (t : Token) : Bool := t = .mark "+" || t = .mark "-"

mutual

/-- Reads a number, a text, a word for a value, or a collection. -/
def readOperand (fuel : Nat) (tokens : List Token) : Except Fault (Form × List Token) :=
  match fuel, tokens with
  | fuel + 1, t :: rest =>
    match t with
    | .number digits => .ok (numberForm digits, rest)
    | .text q =>
      let texts := q :: (rest.takeWhile isText).filterMap Token.text?
      if texts.any Quotation.isFormat then .error .notLiteral
      else .ok (.value none, rest.dropWhile isText)
    | .name s => if s = "set" then .ok (.setWord, rest) else .error .notLiteral
    | .mark m =>
      if constants.contains m || m = "..." then .ok (.value none, rest)
      else if m = "(" then do
        let (forms, hasComma, rest) ← readList fuel rest
        return (← Form.ofTuple forms hasComma, rest)
      else if m = leftBrace then do
        let (kind, rest) ← readMembers fuel "dict" rest
        return (.value (some kind), rest)
      else .error .notLiteral
    | _ => .error .notLiteral
  | _, _ => .error .notLiteral

/-- Reads a literal: an operand, perhaps with a sign, or a sum of two. -/
def readLiteral (fuel : Nat) (tokens : List Token) : Except Fault (Form × List Token) :=
  match fuel with
  | 0 => .error .notLiteral
  | fuel + 1 => do
    let signs := tokens.takeWhile isSign
    let (form, rest) ← readOperand fuel (tokens.drop signs.length)
    let form ← signs.foldlM (fun form _ => form.withSign) form
    match form, rest with
    | .setWord, .mark "(" :: .mark ")" :: rest => return (.value (some "set"), rest)
    | _, sign :: rest =>
      if isSign sign then
        let (right, rest) ← readOperand fuel rest
        return (← form.plus right, rest)
      else return (form, sign :: rest)
    | _, [] => return (form, [])

/-- Reads literals up to a closing parenthesis, and tells whether there are commas. -/
def readList (fuel : Nat) (tokens : List Token) : Except Fault (List Form × Bool × List Token) :=
  match fuel, tokens with
  | _, .mark ")" :: rest => .ok ([], false, rest)
  | 0, _ => .error .notLiteral
  | fuel + 1, _ => do
    let (form, rest) ← readLiteral fuel tokens
    match rest with
    | .mark "," :: rest =>
      let (forms, _, rest) ← readList fuel rest
      return (form :: forms, true, rest)
    | .mark ")" :: rest => return ([form], false, rest)
    | _ => throw .notLiteral

/-- Reads the members of a set or the pairs of a dictionary up to a closing brace. The kind so far
is that of the last member. -/
def readMembers (fuel : Nat) (kind : String) (tokens : List Token) :
    Except Fault (String × List Token) :=
  match fuel, tokens with
  | 0, _ => .error .notLiteral
  | fuel + 1, first :: after => do
    if first = .mark rightBrace then return (kind, after)
    if first = .mark "**" then throw .noKey
    let (member, rest) ← readLiteral fuel tokens
    let (kind, rest) ← match rest with
      | .mark ":" :: rest => do
        let (value, rest) ← readLiteral fuel rest
        let _ ← value.changing?
        pure ("dict", rest)
      | _ => pure ("set", rest)
    member.assertLasting
    match rest with
    | next :: rest =>
      if next = .mark "," then readMembers fuel kind rest
      else if next = .mark rightBrace then return (kind, rest)
      else throw .notLiteral
    | [] => throw .notLiteral
  | _, [] => .error .notLiteral

end

/-- Enough for each token to be read inside all brackets before it. -/
def literalFuel (tokens : List Token) : Nat := 4 * tokens.length + 4

/-- Are the tokens a literal, or several with commas between them? -/
def checkTokens (tokens : List Token) : Except Fault Unit := do
  let tokens := .mark "(" :: tokens ++ [.mark ")"]
  let (form, rest) ← readOperand (literalFuel tokens) tokens
  let _ ← form.changing?
  if !rest.isEmpty then throw .notLiteral

/-- Is the text a literal? -/
def checkLiteral (s : List Char) : Except Fault Unit := do
  if s.contains (Char.ofNat 0) then throw .nulCharacter
  let lexed := lex s
  if let some reason := mistake? lexed then throw (.mistaken reason)
  checkTokens ((lexed.lexemes.map Lexeme.token).filter fun t => t ≠ .newline && t ≠ .stop)

end BuildLauncher.Expression

import BuildLauncher.Number.Digits
import BuildLauncher.Text.Quoted

/-!
# What can be wrong with a TOML text

A fault keeps the text from the place on where it shows; the line and the column follow from how
much is left.
-/
namespace BuildLauncher.Toml

/-- The names from the root table down to a value. -/
abbrev Key := List String

inductive Problem
  | invalidStatement
  | invalidKey
  | invalidValue
  | invalidDate
  | invalidHex
  | invalidScalar
  | invalidCharacter (c : Char)
  | illegalCharacter (c : Char)
  | strayBackslash
  | unterminatedString
  | unclosedArray
  | unclosedInlineTable
  | unclosedHeader
  | unclosedArrayHeader
  | expectedEquals
  | expectedLineEnd
  | expectedDelimiter (delimiter : String)
  | overwrites
  | duplicate (name : String)
  | declaredTwice (key : Key)
  | redefines (key : Key)
  | immutable (key : Key)
  | hugeInteger (digits : Nat)
deriving DecidableEq, Repr

def Problem.message : Problem → String
  | .invalidStatement => "Invalid statement"
  | .invalidKey => "Invalid initial character for a key part"
  | .invalidValue => "Invalid value"
  | .invalidDate => "Invalid date or datetime"
  | .invalidHex => "Invalid hex value"
  | .invalidScalar => "Escaped character is not a Unicode scalar value"
  | .invalidCharacter c => "Found invalid character " ++ Text.quoted (String.singleton c)
  | .illegalCharacter c => "Illegal character " ++ Text.quoted (String.singleton c)
  | .strayBackslash => "Unescaped '\\' in a string"
  | .unterminatedString => "Unterminated string"
  | .unclosedArray => "Unclosed array"
  | .unclosedInlineTable => "Unclosed inline table"
  | .unclosedHeader => "Expected ']' at the end of a table declaration"
  | .unclosedArrayHeader => "Expected ']]' at the end of an array declaration"
  | .expectedEquals => "Expected '=' after a key in a key/value pair"
  | .expectedLineEnd => "Expected newline or end of document after a statement"
  | .expectedDelimiter delimiter => "Expected " ++ Text.quoted delimiter
  | .overwrites => "Cannot overwrite a value"
  | .duplicate name => "Duplicate inline table key " ++ Text.quoted name
  | .declaredTwice key => "Cannot declare " ++ Text.quotedTuple key ++ " twice"
  | .redefines key => "Cannot redefine namespace " ++ Text.quotedTuple key
  | .immutable key => "Cannot mutate immutable namespace " ++ Text.quotedTuple key
  | .hugeInteger digits => tooManyDigits digits

/-- A problem, and the text from the place on where it shows. -/
structure Fault where
  problem : Problem
  rest : List Char

def fail {α : Type} (problem : Problem) (rest : List Char) : Except Fault α :=
  .error ⟨problem, rest⟩

/-- The line and the column of a fault, both counted from one. -/
def Fault.place (fault : Fault) (source : List Char) : String :=
  if fault.rest.isEmpty then "end of document"
  else
    let before := source.take (source.length - fault.rest.length)
    let line := before.count '\n' + 1
    let column := (before.reverse.takeWhile (· ≠ '\n')).length + 1
    "line " ++ toString line ++ ", column " ++ toString column

def Fault.message (fault : Fault) (source : List Char) : String :=
  fault.problem.message ++ " (at " ++ fault.place source ++ ")"

end BuildLauncher.Toml

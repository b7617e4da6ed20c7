import BuildLauncher.Text.Printable

/-!
# Quoted text

A text between quotes, in which every character that does not show is an escape. Single quotes are
used unless the text holds single quotes and no double ones.
-/
namespace BuildLauncher.Text

/-- Hexadecimal digits in lower case, at least `width` of them. -/
def hex (width n : Nat) : List Char :=
  let digits := Nat.toDigits 16 n
  List.replicate (width - digits.length) '0' ++ digits

def escapeHidden (c : Char) : List Char :=
  if c.toNat < 0x100 then '\\' :: 'x' :: hex 2 c.toNat
  else if c.toNat < 0x10000 then '\\' :: 'u' :: hex 4 c.toNat
  else '\\' :: 'U' :: hex 8 c.toNat

def quoteChar (quote c : Char) : List Char :=
  if c = quote || c = '\\' then ['\\', c]
  else if c = '\n' then ['\\', 'n']
  else if c = '\r' then ['\\', 'r']
  else if c = '\t' then ['\\', 't']
  else if isPrintable c then [c]
  else escapeHidden c

/-- The quote that needs the fewest escapes, the single one if in doubt. -/
def chooseQuote (s : List Char) : Char :=
  if s.contains '\'' && !s.contains '"' then '"' else '\''

def quoted (s : String) : String :=
  let quote := chooseQuote s.toList
  String.ofList (quote :: s.toList.flatMap (quoteChar quote) ++ [quote])

/-- Names in parentheses; a single one is followed by a comma. -/
def quotedTuple : List String → String
  | [] => "()"
  | [s] => "(" ++ quoted s ++ ",)"
  | ss => "(" ++ ", ".intercalate (ss.map quoted) ++ ")"

end BuildLauncher.Text

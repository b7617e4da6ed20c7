import BuildLauncher.Text.Quoted
import BuildLauncher.Value.Shown

/-!
# Writing JSON

Three ways to write the same data: compact, indented by two blanks a level, and in ASCII with a
blank after each separator or none.
-/
namespace BuildLauncher

/-- Is the value neither a date nor a time? -/
def Value.isTimeless : Value → Bool
  | .moment _ => false
  | _ => true

/-- Can the value be written in one line of JSON? There are no dates in it. -/
def Value.hasLine (v : Value) : Bool := v.isWritable && v.every isTimeless

namespace Json

/-- Numbers in payloads: powers of ten from `1e-5` to `1e15` are written in full. What is not finite
has no number in JSON. -/
def payloadNumber : Binary64.NumberFormat where
  fullFrom := -5
  fullBelow := 16
  exponentDigits := 1
  exponentPlus := true
  notANumber := "null"
  infinite := "null"
  negativeInfinite := "null"

/-- Numbers in one-line texts. -/
def lineNumber : Binary64.NumberFormat where
  fullFrom := -4
  fullBelow := 16
  exponentDigits := 2
  exponentPlus := true
  notANumber := "NaN"
  infinite := "Infinity"
  negativeInfinite := "-Infinity"

/-- Escapes that both kinds of string share. -/
def shortEscape? (c : Char) : Option (List Char) :=
  if c = '"' then some ['\\', '"']
  else if c = '\\' then some ['\\', '\\']
  else if c = '\n' then some ['\\', 'n']
  else if c = '\r' then some ['\\', 'r']
  else if c = '\t' then some ['\\', 't']
  else if c.toNat = 0x08 then some ['\\', 'b']
  else if c.toNat = 0x0C then some ['\\', 'f']
  else none

def unit (n : Nat) : List Char := '\\' :: 'u' :: Text.hex 4 n

/-- Only quotes, backslashes and controls are escaped. -/
def escapeChar (c : Char) : List Char :=
  match shortEscape? c with
  | some e => e
  | none => if c.toNat < 0x20 then unit c.toNat else [c]

/-- All but the visible ASCII characters and the blank are escaped, in units of sixteen bits. -/
def escapeAscii (c : Char) : List Char :=
  match shortEscape? c with
  | some e => e
  | none =>
    let n := c.toNat
    if 0x20 ≤ n && n < 0x7F then [c]
    else if n < 0x10000 then unit n
    else unit (0xD800 + (n - 0x10000) / 0x400) ++ unit (0xDC00 + (n - 0x10000) % 0x400)

/-- The choices of a way of writing: strings, numbers, and the two separators. -/
structure Style where
  escape : Char → List Char
  number : Binary64.NumberFormat
  comma : String
  colon : String

def compact : Style := ⟨escapeChar, payloadNumber, ",", ":"⟩
def ascii : Style := ⟨escapeAscii, lineNumber, ", ", ": "⟩
def asciiCompact : Style := ⟨escapeAscii, lineNumber, ",", ":"⟩

def Style.string (style : Style) (s : String) : String :=
  String.ofList ('"' :: s.toList.flatMap style.escape ++ ['"'])

def Style.scalar? (style : Style) : Value → Option String
  | .null => some "null"
  | .bool b => some (if b then "true" else "false")
  | .int n => some (toString n)
  | .float x => some (style.number.text x)
  | .text s => some (style.string s)
  | .moment m => some (style.string m.text)
  | .list _ | .object _ => none

mutual

/-- A value on one line. -/
def Style.line (style : Style) : Value → String
  | .list items => "[" ++ style.comma.intercalate (lineItems style items) ++ "]"
  | .object fields => "\x7b" ++ style.comma.intercalate (lineFields style fields) ++ "\x7d"
  | v => (style.scalar? v).getD ""

def lineItems (style : Style) : List Value → List String
  | [] => []
  | v :: rest => style.line v :: lineItems style rest

def lineFields (style : Style) : List (String × Value) → List String
  | [] => []
  | (name, v) :: rest => (style.string name ++ style.colon ++ style.line v) :: lineFields style rest

end

def indentation (level : Nat) : String := String.ofList ('\n' :: List.replicate (2 * level) ' ')

/-- Parts between brackets, each on a line of its own; without parts nothing stands between them. -/
def bracketed (left right : String) (level : Nat) (parts : List String) : String :=
  if parts.isEmpty then left ++ right
  else
    left ++ indentation (level + 1) ++ ("," ++ indentation (level + 1)).intercalate parts ++
      indentation level ++ right

mutual

/-- A value with one item or field a line, at a level of indentation. -/
def indentedAt (level : Nat) : Value → String
  | .list items => bracketed "[" "]" level (indentedItems (level + 1) items)
  | .object fields => bracketed "\x7b" "\x7d" level (indentedFields (level + 1) fields)
  | v => (compact.scalar? v).getD ""

def indentedItems (level : Nat) : List Value → List String
  | [] => []
  | v :: rest => indentedAt level v :: indentedItems level rest

def indentedFields (level : Nat) : List (String × Value) → List String
  | [] => []
  | (name, v) :: rest =>
    (compact.string name ++ ": " ++ indentedAt level v) :: indentedFields level rest

end

def indented (v : Value) : String := indentedAt 0 v

end Json
end BuildLauncher

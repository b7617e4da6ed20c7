import BuildLauncher.Text.CodeRange

/-!
# White space

Blanks separate words; a few of them also end lines.
-/
namespace BuildLauncher.Text

/-- The white space of Unicode, with the four information separators. -/
def blankRanges : List (Nat × Nat) := [
  (0x09, 0x0D), (0x1C, 0x20), (0x85, 0x85), (0xA0, 0xA0), (0x1680, 0x1680), (0x2000, 0x200A),
  (0x2028, 0x2029), (0x202F, 0x202F), (0x205F, 0x205F), (0x3000, 0x3000)]

def isBlank (c : Char) : Bool := covers blankRanges c.toNat

/-- The blanks that the Unicode property knows: all but the information separators. -/
def isWhiteSpace (c : Char) : Bool :=
  isBlank c && !(0x1C ≤ c.toNat && c.toNat ≤ 0x1F)

/-- Characters that end a line when a text is measured. -/
def isLineBreak (c : Char) : Bool :=
  covers [(0x0A, 0x0D), (0x1C, 0x1E), (0x85, 0x85), (0x2028, 0x2029)] c.toNat

/-- The text without the characters of `p` at its end. -/
def dropEndWhile (p : Char → Bool) (s : List Char) : List Char :=
  (s.reverse.dropWhile p).reverse

/-- The text without the characters of `p` at either end. -/
def trim (p : Char → Bool) (s : List Char) : List Char :=
  dropEndWhile p (s.dropWhile p)

/-- The parts between the characters of `p`; there is one more part than such characters. -/
def splitAll (p : Char → Bool) : List Char → List (List Char)
  | [] => [[]]
  | c :: rest =>
    if p c then [] :: splitAll p rest
    else match splitAll p rest with
      | [] => [[c]]
      | part :: parts => (c :: part) :: parts

theorem splitAll_ne_nil (p : Char → Bool) (s : List Char) : splitAll p s ≠ [] := by
  cases s with
  | nil => simp [splitAll]
  | cons c rest =>
    simp only [splitAll]
    split
    · simp
    · split <;> simp

/-- The words of a text: its longest parts without blanks. -/
def fields (s : List Char) : List (List Char) :=
  (splitAll isBlank s).filter (!·.isEmpty)

/-- The lines that follow, where `line` holds the characters of the first one backwards. -/
def linesFrom (line : List Char) : List Char → List (List Char)
  | [] => if line.isEmpty then [] else [line.reverse]
  | '\r' :: '\n' :: rest => line.reverse :: linesFrom [] rest
  | c :: rest =>
    if isLineBreak c then line.reverse :: linesFrom [] rest else linesFrom (c :: line) rest

/-- The lines of a text. A break at the end opens no further line, and a carriage return with a line
feed is one break. -/
def lines (s : List Char) : List (List Char) := linesFrom [] s

end BuildLauncher.Text

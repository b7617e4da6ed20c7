import BuildLauncher.Text.Blank
import BuildLauncher.Text.Styled

/-!
# Wrapping

A line that takes more cells than there are is divided before words. What is too wide for any line
is either folded or cut off. Dividing loses nothing: the parts make up the line again.
-/
namespace BuildLauncher.Text

/-- Bell, backspace, vertical tab, form feed and carriage return never reach the screen. -/
def isDropped (c : Char) : Bool := covers [(7, 8), (11, 13)] c.toNat

def dropControls (s : List Char) : List Char := s.filter (!isDropped ·)

/-- Where the words of a line are: in the blanks before a word, in the word, or in the blanks after.
-/
inductive WordState
  | before
  | inside
  | after
deriving DecidableEq, Repr

/-- The words from a state on, with `word` the characters of the current one backwards. -/
def wordsFrom (state : WordState) (word : List Char) : List Char → List (List Char)
  | [] => if state = .before then [] else [word.reverse]
  | c :: rest =>
    match state with
    | .before => wordsFrom (if isBlank c then .before else .inside) (c :: word) rest
    | .inside => wordsFrom (if isBlank c then .after else .inside) (c :: word) rest
    | .after =>
      if isBlank c then wordsFrom .after (c :: word) rest
      else word.reverse :: wordsFrom .inside [c] rest

/-- The words of a line, each with the blanks after it and the first one also with those before it.
A blank line has none. -/
def words (s : List Char) : List (List Char) := wordsFrom .before [] s

/-- Cells of a word without the blanks after it. -/
def wordWidth (word : List Char) : Nat := cellWidth (dropEndWhile isBlank word)

/-- What happens to a word that is too wide for a line. -/
inductive Overflow
  | fold
  | cut
deriving DecidableEq, Repr

/-- Divides words into lines of at most `width` cells, where `line` is the current line and `used`
the cells that count for it. -/
def fillLines (overflow : Overflow) (width : Nat) (line : List Char) (used : Nat) :
    List (List Char) → List (List Char)
  | [] => [line]
  | word :: rest =>
    if used + wordWidth word ≤ width then
      fillLines overflow width (line ++ word) (used + cellWidth word) rest
    else
      let before := if line.isEmpty then [] else [line]
      if wordWidth word ≤ width then
        before ++ fillLines overflow width word (cellWidth word) rest
      else
        match overflow with
        | .cut => before ++ fillLines overflow width word (cellWidth word) rest
        | .fold =>
          let pieces := chop width word
          let last := pieces.getLastD []
          before ++ pieces.dropLast ++ fillLines overflow width last (cellWidth last) rest

/-- A line divided into lines of at most `width` cells, as far as words and blanks allow it. -/
def divide (overflow : Overflow) (width : Nat) (s : List Char) : List (List Char) :=
  match words s with
  | [] => [s]
  | ws => fillLines overflow width [] 0 ws

/-- Drops blanks at the end of a line as far as it has more than `width` characters. -/
def dropExcessBlanks (width : Nat) (t : Styled) : Styled :=
  let size := t.chars.length
  let blanks := size - (dropEndWhile isBlank t.chars).length
  t.withChars (t.chars.take (size - min blanks (size - width)))

/-- The width of a tab stop. -/
def tabStop : Nat := 8

/-- The characters of a line up to each tab, the tab included, and what is left. -/
def tabParts : List Char → List (List Char)
  | [] => [[]]
  | c :: rest =>
    if c = '\t' then [c] :: tabParts rest
    else match tabParts rest with
      | [] => [[c]]
      | part :: parts => (c :: part) :: parts

/-- More blanks at the end of a text. A style that reaches the end goes on. -/
def extend (t : Styled) (count : Nat) : Styled :=
  let size := t.chars.length
  let longer (s : Span) : Span := if size ≤ s.stop then { s with stop := s.stop + count } else s
  ⟨t.chars ++ List.replicate count ' ', t.spans.map longer⟩

/-- Parts of a line with a blank for the tab at the end of each and further blanks up to the next
tab stop, where `used` cells come before. -/
def fillTabs (used : Nat) : List Styled → List Styled
  | [] => []
  | part :: rest =>
    if part.chars.getLast? = some '\t' then
      let part := { part with chars := part.chars.dropLast ++ [' '] }
      let used := used + cellWidth part.chars
      let missing := (tabStop - used % tabStop) % tabStop
      extend part missing :: fillTabs (used + missing) rest
    else part :: fillTabs (used + cellWidth part.chars) rest

/-- A line with blanks in place of tabs. -/
def expandTabs (t : Styled) : Styled :=
  if t.chars.contains '\t' then
    Styled.concat (fillTabs 0 (t.cut ((tabParts t.chars).map List.length)))
  else t

/-- The lines of a text between newlines, divided to fit, each finished by `finish`. -/
def layOut (overflow : Overflow) (width : Nat) (finish : Styled → Styled) (t : Styled) :
    List Styled :=
  t.splitLines.flatMap fun line =>
    let line := expandTabs line
    let parts := line.cut ((divide overflow width line.chars).map List.length)
    parts.map fun part => finish (dropExcessBlanks width part)

/-- A line that is still too wide loses what sticks out. -/
def crop (width : Nat) (t : Styled) : Styled :=
  if width < cellWidth t.chars then t.withChars (fitWidth width t.chars) else t

/-- A text folded to a width. -/
def wrap (width : Nat) (t : Styled) : List Styled := layOut .fold width (crop width) t

/-- A line of exactly `width` cells; an ellipsis stands for what is cut off. -/
def fitCell (width : Nat) (t : Styled) : Styled :=
  let used := cellWidth t.chars
  if width < used then t.withChars (fitWidth (width - 1) t.chars ++ ['…'])
  else t.withChars (t.chars ++ List.replicate (width - used) ' ')

/-- A text in the lines of a table cell. -/
def wrapCell (width : Nat) (t : Styled) : List Styled := layOut .cut width (fitCell width) t

end BuildLauncher.Text

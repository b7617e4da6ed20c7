import BuildLauncher.Text.CellWidth

/-!
# Styled text

A text with the runs of characters that share a style. A screen without colours shows no style, but
each run is measured by itself, so that joined characters on both sides of a border count apart.
-/
namespace BuildLauncher.Text

/-- A run of characters with a style. A style that is known has no name to look up. -/
structure Span where
  start : Nat
  stop : Nat
  style : Option String
deriving DecidableEq, Repr

structure Styled where
  chars : List Char
  spans : List Span
deriving DecidableEq, Repr

/-- The part of a span that lies between two places, as seen from the first of them. -/
def Span.within? (start stop : Nat) (s : Span) : Option Span :=
  let first := max s.start start
  let last := min s.stop stop
  if first < last then some ⟨first - start, last - start, s.style⟩ else none

/-- What is left of a span in a text of `size` characters that was longer before. -/
def Span.upTo? (size : Nat) (s : Span) : Option Span :=
  if s.start < size then some { s with stop := min s.stop size } else none

namespace Styled

/-- A text without styles. -/
def bare (chars : List Char) : Styled := ⟨chars, []⟩

/-- A text in one style that is known. -/
def whole (chars : List Char) : Styled := ⟨chars, [⟨0, chars.length, none⟩]⟩

def slice (t : Styled) (start size : Nat) : Styled :=
  ⟨(t.chars.drop start).take size, t.spans.filterMap (Span.within? start (start + size))⟩

/-- The slices of the given sizes, one after the other. -/
def slicesFrom (t : Styled) (start : Nat) : List Nat → List Styled
  | [] => []
  | size :: rest => t.slice start size :: slicesFrom t (start + size) rest

/-- A text cut into parts of the given sizes. One that stays whole keeps even its empty spans. -/
def cut (t : Styled) (sizes : List Nat) : List Styled :=
  if sizes.length ≤ 1 then [t] else t.slicesFrom 0 sizes

/-- The text with other characters. Where there are fewer, the spans end with them. -/
def withChars (t : Styled) (chars : List Char) : Styled :=
  if chars.length < t.chars.length then ⟨chars, t.spans.filterMap (Span.upTo? chars.length)⟩
  else { t with chars }

/-- Two texts, one after the other. -/
def append (a b : Styled) : Styled :=
  let shift (s : Span) : Span := ⟨a.chars.length + s.start, a.chars.length + s.stop, s.style⟩
  ⟨a.chars ++ b.chars, a.spans ++ b.spans.map shift⟩

def concat (parts : List Styled) : Styled := parts.foldl append (bare [])

/-- The lines of a text between newlines. -/
def splitLines (t : Styled) : List Styled :=
  let sizes := (t.chars.splitOn '\n').map List.length
  match sizes with
  | [] | [_] => [t]
  | _ => go 0 sizes
where
  go (start : Nat) : List Nat → List Styled
    | [] => []
    | size :: rest => t.slice start size :: go (start + size + 1) rest

/-- The places at which a style starts or ends. -/
def borders (t : Styled) : List Nat := t.spans.flatMap fun s => [s.start, s.stop]

/-- The runs between borders, where `run` holds the characters of the current one backwards. -/
def runsFrom (borders : List Nat) (place : Nat) (run : List Char) : List Char → List (List Char)
  | [] => if run.isEmpty then [] else [run.reverse]
  | c :: rest =>
    if borders.contains place && !run.isEmpty then
      run.reverse :: runsFrom borders (place + 1) [c] rest
    else runsFrom borders (place + 1) (c :: run) rest

/-- The runs of characters that are measured by themselves. -/
def runs (t : Styled) : List (List Char) := runsFrom t.borders 0 [] t.chars

/-- Cutting a text into its runs loses nothing. -/
theorem flatten_runsFrom (borders : List Nat) (place : Nat) (run s : List Char) :
    (runsFrom borders place run s).flatten = run.reverse ++ s := by
  induction s generalizing place run with
  | nil =>
    by_cases h : run = []
    · simp [runsFrom, h]
    · simp [runsFrom, h]
  | cons c rest ih =>
    simp only [runsFrom]
    split <;> simp [ih]

@[simp] theorem flatten_runs (t : Styled) : t.runs.flatten = t.chars := by
  simp [runs, flatten_runsFrom]

end Styled

/-- The cells that runs take together. -/
def runsWidth (runs : List (List Char)) : Nat := total (runs.map cellWidth)

/-- The beginning of runs that takes exactly `width` cells. The run that reaches the width is the
last one. -/
def cropRuns (width : Nat) : List (List Char) → List (List Char)
  | [] => []
  | run :: rest =>
    if cellWidth run < width then run :: cropRuns (width - cellWidth run) rest
    else [fitWidth width run]

/-- Runs that take at most `width` cells. -/
def boundRuns (width : Nat) (runs : List (List Char)) : List (List Char) :=
  if width < runsWidth runs then cropRuns width runs else runs

/-- Runs filled with blanks, or cropped, to `width` cells. The blanks are a run of their own. -/
def fillRuns (width : Nat) (runs : List (List Char)) : List (List Char) :=
  if runsWidth runs < width then runs ++ [List.replicate (width - runsWidth runs) ' ']
  else boundRuns width runs

end BuildLauncher.Text

import BuildLauncher.Number.Binary64
import BuildLauncher.Text.Wrap

/-!
# Columns

A table without lines: each column is as wide as its widest cell, with two blanks on either side. If
the table is too wide, the widest columns shrink until it fits.
-/
namespace BuildLauncher.Report

open Text

/-- Blanks on each side of a cell. -/
def cellPadding : Nat := 2

/-- The cells that a text takes where nothing is divided. -/
def naturalWidth (s : List Char) : Nat := ((lines s).map cellWidth).foldl max 0

/-- The width of a column that may take at most `limit` cells. -/
def columnWidth (limit : Nat) (cells : List (List Char)) : Nat :=
  if limit ≤ 2 * cellPadding then limit
  else min limit (min limit ((cells.map naturalWidth).foldl max 0) + 2 * cellPadding)

/-- Takes `total` cells from the widths that `marked` admits, in equal shares of at most `most`. -/
def reduce (total most : Nat) (marked : Nat → Bool) (widths : List Nat) : List Nat :=
  go total (widths.countP marked) widths
where
  /-- Shares what is left among the `count` widths that are still to come. -/
  go (total count : Nat) : List Nat → List Nat
    | [] => []
    | w :: rest =>
      if marked w && 0 < most && 0 < count then
        let share := min most (Binary64.roundDiv total count)
        (w - share) :: go (total - share) (count - 1) rest
      else w :: go total count rest

/-- Shrinks the widest columns to the next widest ones, again and again, until the table takes at
most `limit` cells. Each round takes at least one cell, so their number bounds the rounds. -/
def shrink (rounds limit : Nat) (widths : List Nat) : List Nat :=
  match rounds with
  | 0 => widths
  | rounds + 1 =>
    let excess := total widths - limit
    if excess = 0 then widths
    else
      let widest := widths.foldl max 0
      let next := (widths.filter (· ≠ widest)).foldl max 0
      if widest = next then widths
      else shrink rounds limit (reduce excess (min excess (widest - next)) (· = widest) widths)

/-- The widths of columns in a table of at most `limit` cells. -/
def columnWidths (limit : Nat) (columns : List (List (List Char))) : List Nat :=
  let natural := columns.map fun cells => max 1 (columnWidth limit cells)
  if total natural ≤ limit then natural
  else List.zipWith columnWidth (shrink (total natural) limit natural) columns

/-- The lines of a cell in a column, without the blanks around them. -/
def cellTexts (width : Nat) (cell : Styled) : List Styled :=
  let inner := width - 2 * cellPadding
  if inner = 0 then [] else wrapCell inner cell

/-- The lines of a cell in a column, each in its runs. -/
def cellLines (width : Nat) (cell : Styled) : List (List (List Char)) :=
  let blanks := List.replicate cellPadding ' '
  (cellTexts width cell).map fun line =>
    blanks :: fillRuns (width - 2 * cellPadding) line.runs ++ [blanks]

/-- The lines of a row. A cell with fewer lines than another is filled with blanks. -/
def rowLines (widths : List Nat) (row : List Styled) : List (List (List Char)) :=
  let cells := List.zipWith cellLines widths row
  let height := (cells.map List.length).foldl max 1
  (List.range height).map fun n =>
    (List.zipWith (fun width (lines : List (List (List Char))) =>
      lines.getD n [List.replicate width ' ']) widths cells).flatten

/-- The widths of the columns in a table of rows. -/
def tableWidths (limit : Nat) (rows : List (List Styled)) : List Nat :=
  let count := (rows.map List.length).foldl max 0
  columnWidths limit ((List.range count).map fun i =>
    rows.map fun row => (row.getD i (.bare [])).chars)

/-- What the cells of a table show, row by row. -/
def tableTexts (limit : Nat) (rows : List (List Styled)) : List Styled :=
  rows.flatMap fun row => (List.zipWith cellTexts (tableWidths limit rows) row).flatten

/-- The lines of a table. -/
def tableLines (limit : Nat) (rows : List (List Styled)) : List (List Char) :=
  (rows.flatMap (rowLines (tableWidths limit rows))).map fun line => (boundRuns limit line).flatten

end BuildLauncher.Report

import BuildLauncher.Text.CellTables
import BuildLauncher.Text.CodeRange

/-!
# Widths of texts in terminal cells

A text is divided into clusters, each a character that takes cells with the marks and joined
characters that take none. The width of a text is the sum of the widths of its clusters.
-/
namespace BuildLauncher.Text

def zeroWidthJoiner : Char := Char.ofNat 0x200D
def emojiSelector : Char := Char.ofNat 0xFE0F

/-- Control characters and marks take no cell, East Asian wide characters two, all others one. -/
def charWidth (c : Char) : Nat :=
  let code := c.toNat
  if 0x20 ≤ code && code < 0x7F then 1
  else if code < 0xA0 then 0
  else if covers zeroWidthRanges code then 0
  else if covers wideRanges code then 2
  else 1

/-- Is the character certain to take one cell wherever it stands? -/
def isSingleCell (c : Char) : Bool :=
  covers [(0x20, 0x7E), (0xA0, 0xAC), (0xAE, 0x2FF), (0x370, 0x482), (0x2500, 0x25FC),
    (0x2800, 0x28FF)] c.toNat

/-- A run of characters drawn together, with the cells it takes. -/
structure Cluster where
  chars : List Char
  width : Nat
deriving DecidableEq, Repr

/-- Adds characters that take no cell of their own to the last cluster. -/
def extendLast (clusters : List Cluster) (chars : List Char) (wider : Nat) : List Cluster :=
  match clusters with
  | [] => [⟨chars, 0⟩]
  | last :: before => ⟨last.chars ++ chars, last.width + wider⟩ :: before

/-- The clusters of a text, the last one first. `base` is the last character that took cells, until
a selector has widened it. A joiner draws the next character into the cluster before it. -/
def clustersFrom (clusters : List Cluster) (base : Option Char) : List Char → List Cluster
  | [] => clusters
  | c :: rest =>
    if c = zeroWidthJoiner && !clusters.isEmpty then
      match rest with
      | [] => extendLast clusters [c] 0
      | joined :: rest => clustersFrom (extendLast clusters [c, joined] 0) base rest
    else if c = emojiSelector && !clusters.isEmpty && base.any (covers emojiBaseRanges ·.toNat) then
      clustersFrom (extendLast clusters [c] 1) none rest
    else if c = zeroWidthJoiner || c = emojiSelector || charWidth c = 0 then
      clustersFrom (extendLast clusters [c] 0) base rest
    else clustersFrom (⟨[c], charWidth c⟩ :: clusters) (some c) rest

def clusters (s : List Char) : List Cluster := (clustersFrom [] none s).reverse

/-- The cells that `rest` takes after `base`, as `clustersFrom` counts them, but with a joiner at
the start of a text also drawing in the next character. -/
def widthFrom (base : Option Char) : List Char → Nat
  | [] => 0
  | c :: rest =>
    if c = zeroWidthJoiner then
      match rest with
      | [] => 0
      | _ :: rest => widthFrom base rest
    else if c = emojiSelector then
      match base with
      | some b => (if covers emojiBaseRanges b.toNat then 1 else 0) + widthFrom none rest
      | none => widthFrom none rest
    else if charWidth c = 0 then widthFrom base rest
    else charWidth c + widthFrom (some c) rest

/-- The sum of widths. -/
def total : List Nat → Nat
  | [] => 0
  | width :: rest => width + total rest

/-- The cells that a text takes. -/
def cellWidth (s : List Char) : Nat := widthFrom none s

/-- The longest beginning of the clusters that takes exactly `width` cells. A wide character that
would stick out gives way to a blank. -/
def cropClusters (width : Nat) : List Cluster → List Char
  | [] => []
  | c :: rest =>
    if c.width ≤ width then
      if width = 0 then [] else c.chars ++ cropClusters (width - c.width) rest
    else if width = 0 then [] else [' ']

/-- The text cropped or filled with blanks to exactly `width` cells. -/
def fitWidth (width : Nat) (s : List Char) : List Char :=
  if s.all isSingleCell then
    s.take width ++ List.replicate (width - s.length) ' '
  else if cellWidth s ≤ width then
    s ++ List.replicate (width - cellWidth s) ' '
  else cropClusters width (clusters s)

/-- Divides clusters into lines of at most `width` cells; `line` holds the clusters of the current
line backwards and `used` their cells. -/
def chopClusters (width : Nat) (line : List Char) (used : Nat) :
    List Cluster → List (List Char)
  | [] => if used = 0 then [] else [line]
  | c :: rest =>
    if used + c.width > width then line :: chopClusters width c.chars c.width rest
    else chopClusters width (line ++ c.chars) (used + c.width) rest

/-- Cuts a list into pieces of `size`, the last one perhaps shorter. -/
def piecesOf (size : Nat) (s : List Char) : List (List Char) :=
  if _h : 0 < size ∧ s ≠ [] then s.take size :: piecesOf size (s.drop size) else []
termination_by s.length
decreasing_by
  have := List.length_pos_iff.mpr _h.2
  simp only [List.length_drop]
  omega

/-- A text too long for a line, folded into pieces of at most `width` cells. -/
def chop (width : Nat) (s : List Char) : List (List Char) :=
  if s.all isSingleCell then piecesOf width s
  else chopClusters width [] 0 (clusters s)

end BuildLauncher.Text

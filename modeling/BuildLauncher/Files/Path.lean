/-!
# Paths

A path is an anchor and the names after it. Reading a text drops empty names and lone points, so
that two texts that differ in these alone give one path. A pair of points stays: what it leads to
depends on links.
-/
namespace BuildLauncher.Files

/-- Where a path starts: at the working directory, at the root, or at a root spelled with exactly
two slashes, which keeps its spelling. -/
inductive Anchor
  | here
  | root
  | doubleRoot
deriving DecidableEq, Repr

def Anchor.text : Anchor → String
  | .here => ""
  | .root => "/"
  | .doubleRoot => "//"

/-- A name that a path keeps. -/
def IsName (s : String) : Prop := s ≠ "" ∧ s ≠ "." ∧ '/' ∉ s.toList

instance (s : String) : Decidable (IsName s) := inferInstanceAs (Decidable (_ ∧ _))

structure Path where
  anchor : Anchor
  names : List String
  isName : ∀ n ∈ names, IsName n
deriving DecidableEq, Repr

namespace Path

@[ext] theorem ext {p q : Path} (ha : p.anchor = q.anchor) (hn : p.names = q.names) : p = q := by
  cases p; cases q; simp_all

def here : Path := ⟨.here, [], by simp⟩
def root : Path := ⟨.root, [], by simp⟩

def anchorOf : List Char → Anchor
  | '/' :: '/' :: '/' :: _ => .root
  | '/' :: '/' :: _ => .doubleRoot
  | '/' :: _ => .root
  | _ => .here

/-- The parts of a text between its slashes. -/
def parts (s : List Char) : List String := (s.splitOn '/').map String.ofList

def ofText (s : String) : Path :=
  ⟨anchorOf s.toList, (parts s.toList).filter fun n => decide (IsName n), by simp⟩

def isAbsolute (p : Path) : Bool := p.anchor ≠ .here

def text (p : Path) : String :=
  if p.anchor = .here ∧ p.names = [] then "." else p.anchor.text ++ "/".intercalate p.names

/-- The path `q` as seen from `p`. An absolute path is the same from everywhere. -/
def join (p q : Path) : Path :=
  if q.isAbsolute then q
  else
    ⟨p.anchor, p.names ++ q.names, fun n h =>
      (List.mem_append.mp h).elim (p.isName n) (q.isName n)⟩

/-- The path without its last name; without names it is its own parent. -/
def parent (p : Path) : Path :=
  ⟨p.anchor, p.names.dropLast, fun n h => p.isName n ((List.dropLast_sublist _).subset h)⟩

/-- A further name below the path. -/
def child (p : Path) (name : String) (h : IsName name) : Path :=
  ⟨p.anchor, p.names ++ [name], fun n hn => by
    rcases List.mem_append.mp hn with hn | hn
    · exact p.isName n hn
    · rw [List.mem_singleton.mp hn]; exact h⟩

/-- The path one level up by its names alone. At the root it stays; a path that climbs already
climbs once more. -/
def climb (p : Path) : Path :=
  match p.names.getLast? with
  | some name => if name = ".." then p.child ".." (by decide) else p.parent
  | none => if p.isAbsolute then p else p.child ".." (by decide)

/-- Without pairs of points, each taken as one level up by names alone. -/
def collapse (p : Path) : Path :=
  let step (q : Path) (name : { n // n ∈ p.names }) : Path :=
    if name.val = ".." then q.climb else q.child name.val (p.isName _ name.property)
  p.names.attach.foldl step ⟨p.anchor, [], by simp⟩

/-- The path and all above it, from the path itself to the last one that has a parent of its own. -/
def ancestors (p : Path) : List Path :=
  (List.range (p.names.length + 1)).map fun n =>
    ⟨p.anchor, p.names.take (p.names.length - n), fun m h => p.isName m (List.mem_of_mem_take h)⟩

end Path
end BuildLauncher.Files

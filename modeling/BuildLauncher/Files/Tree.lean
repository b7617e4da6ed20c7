import BuildLauncher.Files.Fault
import BuildLauncher.Files.Path

/-!
# The file tree

A tree gives some locations a node. The root is a directory in every tree.
-/
namespace BuildLauncher.Files

/-- The names from the root down, none of them a link. -/
abbrev Location := List String

/-- How a program ends. Signals are numbered from one. -/
inductive Ending
  | exits (status : Nat)
  | killed (signal : Nat) (positive : 0 < signal)
deriving DecidableEq, Repr

/-- What starting a program does. During a run that is `interrupted` the user asks to stop. -/
inductive Start
  | runs (ending : Ending) (interrupted : Bool)
  | refused (fault : Fault)
deriving DecidableEq, Repr

/-- A program under the name by which its runs are reported. -/
structure Program where
  name : String
  start : Start
deriving DecidableEq, Repr

inductive Node
  | directory
  | file (content : List UInt8)
  | program (program : Program)
  | link (target : String)
deriving DecidableEq, Repr

namespace Node

def isDirectory : Node → Bool
  | .directory => true
  | _ => false

/-- Programs are regular files too. -/
def isFile : Node → Bool
  | .file _ | .program _ => true
  | _ => false

end Node

structure Tree where
  entries : List (Location × Node)
deriving DecidableEq, Repr

namespace Tree

def empty : Tree := ⟨[]⟩

def get? (t : Tree) (location : Location) : Option Node :=
  if location = [] then some .directory else t.entries.lookup location

def insert (t : Tree) (location : Location) (node : Node) : Tree :=
  ⟨(location, node) :: t.entries.filter (·.1 ≠ location)⟩

/-- Without the node at a location and all that is below it. -/
def erase (t : Tree) (location : Location) : Tree :=
  ⟨t.entries.filter fun e => !location.isPrefixOf e.1⟩

/-- The locations that have a node in `t` and none in `old`. -/
def newSince (t old : Tree) : List Location :=
  (t.entries.map (·.1)).filter fun location => (old.get? location).isNone

@[simp] theorem get?_nil (t : Tree) : t.get? [] = some .directory := by simp [get?]

theorem lookup_filter_ne {location other : Location} (h : other ≠ location)
    (entries : List (Location × Node)) :
    (entries.filter (·.1 ≠ location)).lookup other = entries.lookup other := by
  induction entries with
  | nil => rfl
  | cons e rest ih =>
    obtain ⟨key, node⟩ := e
    by_cases hk : key = location
    · subst hk
      simpa [List.lookup_cons, beq_eq_false_iff_ne.mpr h] using ih
    · simp only [ne_eq, hk, not_false_eq_true, decide_true, List.filter_cons_of_pos,
        List.lookup_cons]
      split <;> simp_all

theorem get?_insert (t : Tree) {location : Location} (h : location ≠ []) (node : Node)
    (other : Location) :
    (t.insert location node).get? other = if other = location then some node else t.get? other := by
  by_cases ho : other = location
  · subst ho
    simp [get?, insert, h]
  · by_cases hn : other = []
    · simp [get?, hn, Ne.symm h]
    · simp only [get?, hn, if_false, insert, if_neg ho, List.lookup_cons,
        beq_eq_false_iff_ne.mpr ho, lookup_filter_ne ho]

end Tree
end BuildLauncher.Files

import BuildLauncher.Checking.Issue

/-!
# Checks that collect issues

A check of a whole runs the checks of all its parts and keeps the issues of each.
-/
namespace BuildLauncher.Checking

inductive Checked (α : Type)
  | valid (value : α)
  | invalid (issues : List Issue)
deriving Repr

namespace Checked

def map {α β : Type} (f : α → β) : Checked α → Checked β
  | .valid a => .valid (f a)
  | .invalid issues => .invalid issues

/-- Issues of both sides stand in their order. -/
def combine {α β : Type} : Checked (α → β) → Checked α → Checked β
  | .valid f, .valid a => .valid (f a)
  | .valid _, .invalid issues => .invalid issues
  | .invalid issues, .valid _ => .invalid issues
  | .invalid issues, .invalid more => .invalid (issues ++ more)

instance : Applicative Checked where
  map := map
  pure := .valid
  seq f a := combine f (a ())

def issues {α : Type} : Checked α → List Issue
  | .valid _ => []
  | .invalid issues => issues

/-- A further check of a valid value. -/
def andThen {α β : Type} (c : Checked α) (f : α → Checked β) : Checked β :=
  match c with
  | .valid a => f a
  | .invalid issues => .invalid issues

/-- The issues of a part stand at its place in the whole. -/
def under {α : Type} (step : Step) : Checked α → Checked α
  | .valid a => .valid a
  | .invalid issues => .invalid (issues.map fun i => { i with place := step :: i.place })

/-- A value that has one problem. -/
def fault {α : Type} (problem : Problem) (v : Value) : Checked α :=
  .invalid [⟨[], problem, .ofValue v⟩]

/-- The items of a list, each checked at its place. -/
def items {α : Type} (check : Value → Checked α) (index : Nat) : List Value → Checked (List α)
  | [] => pure []
  | v :: rest => (· :: ·) <$> (check v).under (.item index) <*> items check (index + 1) rest

end Checked
end BuildLauncher.Checking

import BuildLauncher.Failure
import BuildLauncher.Files.Walk
import BuildLauncher.Log.Record
import BuildLauncher.Settings.Environment

/-!
# The host

What a launch can see and change: files, the environment, a clock, the programs that have run and
the events that were reported.
-/
namespace BuildLauncher

open Files

/-- A reading of the clock in seconds. -/
inductive Tick
  | whole (n : Int)
  | real (x : Binary64)
deriving DecidableEq, Repr

def Tick.toBinary64 : Tick → Binary64
  | .whole n => .ofInt n
  | .real x => x

/-- The milliseconds between two readings, to two decimal places. -/
def elapsed (start stop : Tick) : Value :=
  match start, stop with
  | .whole a, .whole b => .int ((b - a) * 1000)
  | _, _ =>
    let seconds := Binary64.sub stop.toBinary64 start.toBinary64
    .float (Binary64.roundTo 2 (Binary64.scaleBy 1000 seconds))

/-- Readings still to come; then the last one repeats. -/
structure Clock where
  last : Tick
  upcoming : List Tick
deriving DecidableEq, Repr

/-- A program that has been started. -/
structure Execution where
  program : String
  directory : Location
  arguments : List String
deriving DecidableEq, Repr

structure Host where
  view : View
  environment : Environment
  clock : Clock
  executions : List Execution
  records : List Log.Record

/-- An operation on a host. What it has done stays done if it fails. -/
abbrev Launching (α : Type) := ExceptT Failure (StateM Host) α

namespace Launching

def ofFiles {α : Type} (inspect : View → Except Error α) : Launching α := do
  match inspect (← get).view with
  | .ok a => return a
  | .error e => throw (.files e)

def log (logger : String) (level : Log.Level) (event : String) : Launching Unit :=
  modify fun h => { h with records := h.records ++ [⟨logger, level, event, []⟩] }

/-- The next reading of the clock. -/
def tick : Launching Tick := do
  let h ← get
  match h.clock.upcoming with
  | [] => return h.clock.last
  | next :: rest =>
    set { h with clock := ⟨next, rest⟩ }
    return next

/-- A change of the files, kept even if it fails midway. -/
def change (f : View → Except Error Unit × View) : Launching (Except Error Unit) := do
  let h ← get
  let (result, view) := f h.view
  set { h with view }
  return result

end Launching
end BuildLauncher

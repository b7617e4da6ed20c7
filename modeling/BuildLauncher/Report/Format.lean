import BuildLauncher.Report.Human
import BuildLauncher.Text.ControlSequence

/-!
# Formats of a report

A report is written as JSON, in one line, or for people; where it goes depends on its success alone.
-/
namespace BuildLauncher.Report

/-- The format that is asked for. JSON wins over brevity, brevity over detail. -/
structure OutputMode where
  json : Bool
  quiet : Bool
  verbose : Bool
deriving DecidableEq, Repr

def format (r : Report) (mode : OutputMode) : Except Failure String :=
  if mode.json then .ok r.indented
  else if mode.quiet then .ok (renderQuiet r)
  else render r mode.verbose

/-- What a program has written, and the status that it ends with. -/
structure Output where
  stdout : String
  stderr : String
  status : Int
deriving DecidableEq, Repr

/-- A text as it is written out: without what only a terminal would understand, on a line of its
own. -/
def line (s : String) : String := Text.plain s ++ "\n"

/-- Warnings for people. In JSON they are a part of the report. -/
def warningLines (r : Report) (mode : OutputMode) : String :=
  if mode.json then "" else String.join (r.warnings.map fun w => line ("WARNING: " ++ w))

/-- Writes a report: a success to standard output with its warnings on the side, a failure to
standard error. -/
def emit (r : Report) (mode : OutputMode) : Except Failure Output := do
  let text ← r.format mode
  if r.ok then return ⟨line text, warningLines r mode, 0⟩
  return ⟨"", line text, r.exitCode⟩

end BuildLauncher.Report

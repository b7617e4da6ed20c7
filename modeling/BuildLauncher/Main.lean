import BuildLauncher.CommandLine.Program
import BuildLauncher.Launch.Description
import BuildLauncher.Value.JsonReader

/-!
# Rehearsing a launch

The program is run with the arguments of the command line on the host that the first line of the
input describes. No line means a bare host. The field `now` of the description is the time that log
lines carry.
-/
namespace BuildLauncher

/-- The description in a line, empty if it holds none. -/
def readDescription (line : String) : Fields :=
  match Json.read? line with
  | some (.object fields) => fields
  | _ => []

/-- What a run writes on the error stream. A failure that no message was written for is told there.
-/
def CommandLine.Result.errorText (r : CommandLine.Result) : String :=
  match r.failure with
  | some f => r.output.stderr ++ f.message ++ "\n"
  | none => r.output.stderr

/-- The status that a process can end with. -/
def CommandLine.Result.exitStatus (r : CommandLine.Result) : UInt32 :=
  (r.output.status % 256).toNat.toUInt32

end BuildLauncher

open BuildLauncher in
def main (arguments : List String) : IO UInt32 := do
  let description := readDescription (← (← IO.getStdin).getLine)
  let host := Host.ofDescription "/" description
  let (result, _) :=
    CommandLine.runProgram "reth-build" (description.textAt "now") arguments host
  (← IO.getStdout).putStr result.output.stdout
  (← IO.getStderr).putStr result.errorText
  return result.exitStatus

import BuildLauncher.CommandLine.Commands
import BuildLauncher.Launch.Service
import BuildLauncher.Log.Logging
import BuildLauncher.Report.Format
import BuildLauncher.Settings.Assembly

/-!
# The program

Options that only show a text come first. Then the command is looked up, the settings are assembled,
the command's own arguments are read, and the command is carried out.
-/
namespace BuildLauncher.CommandLine

open Files
open Report (Output)

/-- What a run of the program leaves behind: its output, and the failure that has ended it. -/
structure Result where
  output : Output
  failure : Option Failure

/-- A carriage return that a newline follows is a part of the line end. -/
def unifyLineEnds : List Char → List Char
  | [] => []
  | '\r' :: '\n' :: rest => '\n' :: unifyLineEnds rest
  | c :: rest => c :: unifyLineEnds rest

namespace Result

/-- The end of a run that only shows a text. -/
def shown (text : String) : Result := ⟨⟨Text.plain text, "", 0⟩, none⟩

/-- The end of a run that tells the user what is wrong. -/
def refused (text : String) (status : Int) : Result := ⟨⟨"", Text.plain text, status⟩, none⟩

/-- The end of a run that a failure breaks off. -/
def broken (stderr : String) (f : Failure) : Result := ⟨⟨"", stderr, 1⟩, some f⟩

/-- What a failure in the settings leads to. The user's errors are reported in one line. -/
def ofFailure (f : Failure) : Result :=
  if f.isUserError then refused ("Error: " ++ f.message ++ "\n") 1 else broken "" f

/-- The status for a wrong call of the program. -/
def usageStatus : Int := 2

def ofUsage (path : String) (spec : CommandSpec) (fault : UsageFault) : Result :=
  let head :=
    if fault.showsUsage then
      usage path spec ++ "\nTry '" ++ path ++ " --help' for help.\n\n"
    else ""
  refused (head ++ "Error: " ++ fault.message ++ "\n") usageStatus

/-- The result with line ends of two characters as newlines in all that was written. -/
def withNewlines (r : Result) : Result :=
  let unified (s : String) := String.ofList (unifyLineEnds s.toList)
  { r with output := { r.output with
      stdout := unified r.output.stdout, stderr := unified r.output.stderr } }

end Result

/-- The arguments of a command, unless they or an eager option end the run. -/
def readFor (path : String) (spec : CommandSpec) (mixed : Bool) (help : String)
    (arguments : List String) : Except Result Arguments :=
  match readArguments spec.options mixed arguments with
  | .error fault => .error (.ofUsage path spec fault)
  | .ok a =>
    match a.eager? spec.options with
    | some "--version" => .error (.shown versionText)
    | some "--examples" => .error (.shown (examplesText path spec))
    | some _ => .error (.shown help)
    | none => .ok a

/-- The arguments of the program itself. A launcher directory that no file can have is refused. -/
def readGlobal (path : String) (arguments : List String) : Except Result Arguments := do
  let a ← readFor path programSpec false (programHelp path) arguments
  if (a.valueOf "--base-dir").any View.hasNul then
    throw (.broken "" (.files .nulCharacter))
  return a

/-- The command to carry out, with its arguments. What starts with a hyphen is read as an option
after all, for the texts that it may show. -/
def resolveCommand (path name : String) (rest : List String) :
    Except Result (Command × List String) := do
  match Command.ofName? name with
  | some c => return (c, rest)
  | none =>
    if name.toList.head? = some '-' then
      let _ ← readGlobal path (name :: rest)
    let alike := suggestions name (Command.all.map Command.name)
    throw (.ofUsage path programSpec (.noSuchCommand name alike))

/-- The settings that the options ask for. A flag that is not given asks for what it would switch
on to be off. -/
def requestFor (a : Arguments) : SettingsRequest where
  configPath := a.valueOf "--config"
  baseDir := a.valueOf "--base-dir"
  arguments :=
    let flags := [
      ("json_output", "--json"), ("quiet", "--quiet"), ("verbose", "--verbose"),
      ("log_json", "--log-json"), ("dry_run", "--dry-run")]
    let values := [("image", "--image"), ("volume", "--volume"), ("docker", "--docker")]
    (flags.map fun (name, option) => (name, Value.bool (a.has option))) ++
      values.filterMap fun (name, option) =>
        (a.valueOf option).map fun text => (name, Value.text text)

def outputMode (s : Settings) : Report.OutputMode := ⟨s.jsonOutput, s.quiet, s.verbose⟩

/-- Carries out a command. -/
def perform (c : Command) (s : Settings) (a : Arguments) : Launching Output := do
  let env := (← get).environment
  let launcher ← Launching.ofFiles fun v => Launcher.ofSettings v env s
  let report ← match c with
    | .build => launcher.buildImage
    | .plan => launcher.plan a.rest
    | .run => launcher.launch (a.has "--skip-build") a.rest
  match report.emit (outputMode s) with
  | .ok output => return output
  | .error f => throw f

/-- Carries out a command with the log lines that come before its output. -/
def performLogged (timestamp : String) (c : Command) (s : Settings) (a : Arguments) (h : Host) :
    Result × Host :=
  let logging := (Log.Logging.initial.configure ⟨s.verbose, s.logJson⟩).bindLaunch s.image
    s.baseDir.text
  let (result, after) := (perform c s a).run h
  let log := logging.write timestamp (after.records.drop h.records.length)
  match result with
  | .ok output => (⟨{ output with stderr := log ++ output.stderr }, none⟩, after)
  | .error f => (.broken log f, after)

/-- The arguments of a command. -/
def readCommand (path : String) (c : Command) (rest : List String) : Except Result Arguments := do
  let path := path ++ " " ++ c.name
  let a ← readFor path c.spec true (helpText path c.spec []) rest
  if !c.takesArguments && !a.rest.isEmpty then
    throw (.ofUsage path c.spec (.surplus a.rest))
  return a

/-- The settings for arguments. -/
def settingsFor (a : Arguments) (h : Host) : Except Result Settings :=
  (Settings.assemble h.view h.environment (requestFor a)).mapError .ofFailure

/-- All that is settled before a command is carried out. -/
structure Invocation where
  command : Command
  settings : Settings
  arguments : Arguments

/-- What the arguments ask for. -/
def interpret (path : String) (arguments : List String) (h : Host) : Except Result Invocation := do
  let a ← readGlobal path arguments
  match a.rest with
  | [] =>
    let _ ← settingsFor a h
    throw (.shown (programHelp path))
  | name :: rest =>
    let (command, rest) ← resolveCommand path name rest
    let settings ← settingsFor a h
    return ⟨command, settings, ← readCommand path command rest⟩

/-- Runs the program under the name by which it was called. -/
def runProgram (path timestamp : String) (arguments : List String) (h : Host) : Result × Host :=
  let (result, after) := match interpret path arguments h with
    | .error result => (result, h)
    | .ok i => performLogged timestamp i.command i.settings i.arguments h
  (result.withNewlines, after)

end BuildLauncher.CommandLine

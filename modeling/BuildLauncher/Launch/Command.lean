import BuildLauncher.Checking.Readers
import BuildLauncher.Launch.Host
import BuildLauncher.Text.ShellWords

/-!
# Running commands

A command is looked up before it is started, from the launcher's own directory; it is started from
the directory that it is to run in.
-/
namespace BuildLauncher

open Checking Files

/-- How a command ended. -/
structure CommandOutcome where
  argv : List String
  returncode : Int
  cwd : Option String
deriving DecidableEq, Repr

namespace CommandOutcome

def ok (o : CommandOutcome) : Bool := o.returncode = 0

def ofFields (fields : Fields) : Checked CommandOutcome :=
  CommandOutcome.mk <$> required fields "argv" asTexts
    <*> required fields "returncode" asInteger
    <*> field fields "cwd" none (asOptional asText)

end CommandOutcome

/-- What the environment is taken to say about where programs are if it says nothing. -/
def defaultPath : String := "/bin:/usr/bin"

/-- The directories to look for programs in. An empty list of directories finds nothing. -/
def searchPath (env : Environment) : List String :=
  match env.get? "PATH" with
  | none => (defaultPath.toList.splitOn ':').map String.ofList
  | some "" => []
  | some text => (text.toList.splitOn ':').map String.ofList

/-- The text of a name in a directory. -/
def inDirectory (directory name : String) : String :=
  if directory = "" || directory.toList.getLast? = some '/' then directory ++ name
  else directory ++ "/" ++ name

def hasSlash (command : String) : Bool := command.toList.contains '/'

/-- The texts that a command may mean. One with a slash means itself. -/
def candidates (env : Environment) (command : String) : List String :=
  if hasSlash command then [command] else (searchPath env).map (inDirectory · command)

/-- Is there a program at a text? -/
def isProgram (v : View) (text : String) : Bool :=
  !View.hasNul text &&
    match v.node? text with
    | .ok (_, .program _) => true
    | _ => false

/-- The first program that a command means. -/
def lookUp (v : View) (env : Environment) (command : String) : Option String :=
  (candidates env command).find? (isProgram v)

/-- Starting what is at a text. -/
def startAt (v : View) (text : String) : Except Fault (Program × Ending × Bool) :=
  match v.node? text with
  | .error fault => .error fault
  | .ok (_, .program program) =>
    match program.start with
    | .runs ending interrupted => .ok (program, ending, interrupted)
    | .refused fault => .error fault
  | .ok _ => .error .accessDenied

/-- Faults that only say that there is nothing at a text. -/
def isAbsence (fault : Fault) : Bool := fault = .notFound || fault = .notDirectory

/-- Starts the first candidate that can be started. If none can, the first fault counts that is more
than an absence, or else the last one. -/
def startFirst (v : View) (first : Option Fault) (last : Fault) :
    List String → Except Fault (Program × Ending × Bool)
  | [] => .error (first.getD last)
  | text :: rest =>
    match startAt v text with
    | .ok started => .ok started
    | .error fault =>
      let first := if isAbsence fault then first else first.or (some fault)
      startFirst v first fault rest

/-- The directory that a program is to run in. -/
def directoryFor (v : View) : Option Path → Except Error Location
  | none =>
    match v.workingDir with
    | some location => .ok location
    | none => .error (.refused .notFound .nothing)
  | some path =>
    match v.node? path.text with
    | .ok (location, .directory) => .ok location
    | .ok _ => .error (.refused .notDirectory (.directory path.text))
    | .error fault => .error (.refused fault (.directory path.text))

/-- A process that has been started. -/
structure Process where
  execution : Execution
  ending : Ending
  interrupted : Bool

/-- Starts a command. -/
def startCommand (v : View) (env : Environment) (command : String) (arguments : List String)
    (cwd : Option Path) : Except Error Process := do
  let texts := command :: arguments ++ cwd.toList.map Path.text
  if texts.any View.hasNul then throw .nulCharacter
  let directory ← directoryFor v cwd
  let inside : View := { v with workingDir := some directory }
  match startFirst inside none .notFound (candidates env command) with
  | .ok (program, ending, interrupted) =>
    return ⟨⟨program.name, directory, arguments⟩, ending, interrupted⟩
  | .error fault => throw (.refused fault (.named command))

/-- What is reported if the user has asked to stop. -/
def interruptedStatus : Int := 130

/-- What is reported of an ending: the status, or the signal as a negative number. -/
def Files.Ending.returncode : Ending → Int
  | .exits status => (status % 256 : Nat)
  | .killed signal _ => -(signal : Int)

/-- The reason where a look-up has found nothing. -/
def notOnPath : String := "not found on PATH"

def commandLogger : String := "rethbuild.infrastructure.process"

/-- Runs a command to its end. -/
def runCommand (argv : List String) (cwd : Option Path) : Launching CommandOutcome := do
  match argv with
  | [] => throw .emptyCommand
  | command :: arguments =>
    let h ← get
    if (lookUp h.view h.environment command).isNone then
      throw (.commandNotFound command notOnPath)
    let shown ← Launching.ofFiles fun v => cwd.elim v.currentPath .ok
    Launching.log commandLogger .info
      ("exec " ++ Text.shellJoin argv ++ " (cwd=" ++ shown.text ++ ")")
    match startCommand h.view h.environment command arguments cwd with
    | .error .nulCharacter => throw (.files .nulCharacter)
    | .error e => throw (.commandNotFound command e.message)
    | .ok process =>
      modify fun h => { h with executions := h.executions ++ [process.execution] }
      if process.interrupted then
        Launching.log commandLogger .warning ("interrupted, waiting for " ++ command ++ " to exit")
      let returncode :=
        if process.interrupted then interruptedStatus else process.ending.returncode
      Launching.log commandLogger .debug (command ++ " exited with " ++ toString returncode)
      return ⟨argv, returncode, cwd.map Path.text⟩

/-- A way of running commands: what becomes of the words of a command in a directory. -/
abbrev Executor := List String → Option Path → Launching CommandOutcome

/-- Runs an operation, and gives the reason if it fails because a command cannot be started. -/
def orNotFound {α : Type} (op : Launching α) : Launching (Except (String × String) α) :=
  tryCatch (Except.ok <$> op) fun
    | .commandNotFound command reason => return .error (command, reason)
    | failure => throw failure

end BuildLauncher

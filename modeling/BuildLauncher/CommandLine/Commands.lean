import BuildLauncher.CommandLine.Options
import BuildLauncher.Text.ControlSequence

/-!
# Commands and their help

A command is described once; its usage line, its help page and its options follow from that.
-/
namespace BuildLauncher.CommandLine

/-- What a command tells about itself. -/
structure CommandSpec where
  /-- What may follow its name. -/
  pieces : List String
  description : List String
  options : List OptionSpec
  examples : List String
deriving DecidableEq, Repr

/-- What the launcher can be told to do. -/
inductive Command
  | build
  | plan
  | run
deriving DecidableEq, Repr

def flag (long : String) (short : Option Char) (help : String) : OptionSpec :=
  ⟨long, short, none, help, false⟩

def valued (long : String) (short : Option Char) (metavar help : String) : OptionSpec :=
  ⟨long, short, some metavar, help, false⟩

def eagerFlag (long help : String) : OptionSpec := ⟨long, none, none, help, true⟩

def commonOptions : List OptionSpec := [
  eagerFlag "--examples" "Show usage examples.", eagerFlag "--help" "Show this message and exit."]

/-- The options that stand before a command. -/
def globalOptions : List OptionSpec := [
  eagerFlag "--version" "Show the version and exit.",
  flag "--json" none "Structured JSON output.",
  flag "--quiet" (some 'q') "Minimal output.",
  flag "--verbose" (some 'v') "Detailed output with debug info.",
  flag "--log-json" none "Structured JSON log output to stderr.",
  flag "--dry-run" none "Report commands instead of running them.",
  valued "--config" (some 'c') "TEXT" "Override config file path.",
  valued "--base-dir" none "PATH" "Launcher directory (holds the Dockerfile).",
  valued "--image" none "TEXT" "Image tag [env: BUILDER_IMAGE].",
  valued "--volume" none "TEXT" "Target dir volume [env: TARGET_DIR_VOLUME].",
  valued "--docker" none "TEXT" "Container engine binary [env: DOCKER]."] ++ commonOptions

def programSpec : CommandSpec where
  pieces := ["[OPTIONS]", "[COMMAND]", "[ARGS]..."]
  description := ["reth-build — build the builder image and run a containerized reth build."]
  options := globalOptions
  examples := [
    "reth-build run", "reth-build --json plan",
    "BUILDER_IMAGE=build-reth:ci DOCKER=podman reth-build run"]

namespace Command

def name : Command → String
  | .build => "build"
  | .plan => "plan"
  | .run => "run"

/-- All commands in the order of their names. -/
def all : List Command := [.build, .plan, .run]

def ofName? (s : String) : Option Command := all.find? (·.name = s)

def spec : Command → CommandSpec
  | .build =>
    { pieces := ["[OPTIONS]"]
      description := ["Build and tag the builder image from the launcher directory."]
      options := commonOptions
      examples := [
        "reth-build build", "BUILDER_IMAGE=build-reth:ci reth-build build",
        "reth-build --docker podman build", "reth-build --dry-run build"] }
  | .plan =>
    { pieces := ["[OPTIONS]", "[RUNNER_ARGS]..."]
      description := ["Print what ``run`` would execute, without executing anything."]
      options := commonOptions
      examples := [
        "reth-build plan", "reth-build plan -- cargo test", "reth-build --json plan",
        "BUILDER_IMAGE=foo reth-build plan"] }
  | .run =>
    { pieces := ["[OPTIONS]", "[RUNNER_ARGS]..."]
      description := [
        "Build the image, then run the build-runner from the target checkout.",
        "Arguments after ``--`` are appended to the runner command line."]
      options :=
        flag "--skip-build" none "Reuse the existing image; do not rebuild it." :: commonOptions
      examples := [
        "reth-build run", "reth-build run --skip-build",
        "TARGET_DIR_VOLUME=reth_release_target reth-build run",
        "reth-build --base-dir ~/projects/reth/.dev run",
        "reth-build run -- cargo build --release"] }

/-- Does the command pass arguments on to the runner? -/
def takesArguments : Command → Bool
  | .build => false
  | .plan | .run => true

@[simp] theorem ofName?_name (c : Command) : ofName? c.name = some c := by cases c <;> rfl

end Command

/-- The width of a help page in cells. -/
def helpWidth : Nat := 80

/-- Joins words, separated by blanks, into lines of at most `width` characters. -/
def joinWords (width : Nat) (line : String) : List String → List String
  | [] => [line]
  | word :: rest =>
    if line.length + 1 + word.length ≤ width then joinWords width (line ++ " " ++ word) rest
    else line :: joinWords width word rest

def indented (width : Nat) (s : String) : String := String.ofList (List.replicate width ' ') ++ s

/-- How a command is called. What does not fit beside its name stands below. -/
def usage (path : String) (spec : CommandSpec) : String :=
  let start := "Usage: " ++ path ++ " "
  let width := (Text.plain start).length
  let lines (width : Nat) := joinWords width (spec.pieces.headD "") spec.pieces.tail
  if width + 20 ≤ helpWidth then
    start ++ ("\n" ++ indented width "").intercalate (lines (helpWidth - width))
  else
    start ++ "\n" ++ "\n".intercalate ((lines (helpWidth - 11)).map (indented 11))

/-- Two columns, the first as wide as its widest entry. -/
def table (rows : List (String × String)) : String :=
  let width := (rows.map (·.1.length)).foldl max 0 + 2
  String.join (rows.map fun (left, right) =>
    "  " ++ left ++ indented (width - left.length) right ++ "\n")

def optionRow (o : OptionSpec) : String × String :=
  let short := (o.short.map fun c => String.ofList ['-', c] ++ ", ").getD ""
  let metavar := (o.metavar.map (" " ++ ·)).getD ""
  (short ++ o.long ++ metavar, o.help)

/-- The variables that every help page lists. -/
def variablesText : String :=
  "  Environment:\n" ++
  "    BUILDER_IMAGE      image tag to build and run (default: build-reth:dev)\n" ++
  "    TARGET_DIR_VOLUME  volume for the target dir (default: build-reth_target_dir)\n" ++
  "    DOCKER             container engine binary (default: docker)\n"

/-- The help page of a command; `rows` are the commands below it. -/
def helpText (path : String) (spec : CommandSpec) (rows : List (String × String)) : String :=
  usage path spec ++ "\n" ++
    String.join (spec.description.map fun s => "\n  " ++ s ++ "\n") ++
    "\nOptions:\n" ++ table (spec.options.map optionRow) ++
    (if rows.isEmpty then "" else "\nCommands:\n" ++ table rows) ++
    "\n" ++ variablesText

def commandRows : List (String × String) :=
  Command.all.map fun c => (c.name, c.spec.description.headD "")

def programHelp (path : String) : String := helpText path programSpec commandRows

def examplesText (path : String) (spec : CommandSpec) : String :=
  "Examples for '" ++ path ++ "':\n\n" ++ String.join (spec.examples.map fun s => "  " ++ s ++ "\n")

def versionText : String := "reth-build, version 0.3.0\n"

end BuildLauncher.CommandLine

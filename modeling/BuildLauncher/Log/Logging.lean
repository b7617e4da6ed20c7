import BuildLauncher.Log.Record
import BuildLauncher.Text.Blank
import BuildLauncher.Value.Json

/-!
# Logging

Events go to standard error, one line each, if they are grave enough for their logger. Every line
tells what the launch is about. Configuring replaces what was configured before.
-/
namespace BuildLauncher.Log

structure Config where
  verbose : Bool
  json : Bool
deriving DecidableEq, Repr

/-- What becomes of a record that is written: nothing, or a line for programs or for people. -/
inductive Handler
  | silent
  | lines (json : Bool)
deriving DecidableEq, Repr

/-- The handlers that each record goes to, the least levels for other loggers and for those of the
program, and the values that every line carries. -/
structure Logging where
  handlers : List Handler
  rootLevel : Level
  appLevel : Level
  context : Fields

/-- The logger of the program itself. Names below it continue with a point. -/
def appLogger : String := "rethbuild"

def isOwn (logger : String) : Bool :=
  logger = appLogger || (appLogger ++ ".").toList.isPrefixOf logger.toList

namespace Logging

/-- Nothing is written until logging is configured. -/
def initial : Logging := ⟨[.silent], .warning, .warning, []⟩

def addHandler (l : Logging) (h : Handler) : Logging := { l with handlers := l.handlers ++ [h] }

def setLevels (l : Logging) (root app : Level) : Logging :=
  { l with rootLevel := root, appLevel := app }

/-- One handler is left, whatever there was before, and both levels are set anew. -/
def configure (l : Logging) (config : Config) : Logging :=
  let cleared := { l with handlers := [] }
  (cleared.addHandler (.lines config.json)).setLevels .warning
    (if config.verbose then .debug else .warning)

def bind (l : Logging) (name : String) (value : Value) : Logging :=
  { l with context := l.context.set name value }

/-- Attaches an image and a launcher directory to every line, in place of all that was attached. -/
def bindLaunch (l : Logging) (image baseDir : String) : Logging :=
  let cleared := { l with context := [] }
  (cleared.bind "image" (.text image)).bind "base_dir" (.text baseDir)

/-- The least level for events of a logger. -/
def threshold (l : Logging) (logger : String) : Level :=
  if isOwn logger then l.appLevel else l.rootLevel

def isWritten (l : Logging) (r : Record) : Bool := (l.threshold r.logger).rank ≤ r.level.rank

end Logging

def insertByName (field : String × Value) : List (String × Value) → List (String × Value)
  | [] => [field]
  | other :: rest =>
    if field.1 ≤ other.1 then field :: other :: rest else other :: insertByName field rest

/-- Fields in the order of their names. -/
def sortByName (fields : Fields) : Fields := fields.foldr insertByName []

mutual

/-- The value as a line for programs tells it: the fields of every object in the order of their names,
and a date as the call that builds it. -/
def told : Value → Value
  | .list items => .list (toldItems items)
  | .object fields => .object (sortByName (toldFields fields))
  | .moment m => .text m.shown
  | v => v

def toldItems : List Value → List Value
  | [] => []
  | v :: rest => told v :: toldItems rest

def toldFields : List (String × Value) → List (String × Value)
  | [] => []
  | (name, v) :: rest => (name, told v) :: toldFields rest

end

/-- The name of a logger. The one above all others has its own. -/
def loggerName (logger : String) : String := if logger = "" then "root" else logger

/-- The names of what a line itself tells and of what serves only to make it. -/
def reservedNames : List String :=
  ["event", "level", "logger", "timestamp", "stack_info", "_record", "_from_structlog"]

/-- The values of a line besides the event. Those of the event win over those of every line. -/
def lineFields (l : Logging) (r : Record) : Fields :=
  (r.fields.foldl (fun fields p => fields.set p.1 p.2) l.context).filter
    (!reservedNames.contains ·.1)

/-- A text stands bare unless it holds a character that could be taken for the end of a value. -/
def consoleValue : Value → String
  | .text s =>
    if s.toList.any fun c => " \t=\r\n\"'".toList.contains c then Text.quoted s else s
  | v => v.shown

def padRight (width : Nat) (s : String) : String :=
  s ++ String.ofList (List.replicate (width - s.length) ' ')

/-- The names of values that have places of their own in a line for people. -/
def placedNames : List String := ["stack", "exception", "exc_info", "logger_name"]

/-- A value that is there and is not null. -/
def given? (fields : Fields) (name : String) : Option Value :=
  (fields.get? name).filter fun v => !(v matches .null)

/-- What follows a line for people: the calls that led to the event and the exception, each below a
line end, and a rule between them where there is an exception. -/
def traces (fields : Fields) : String :=
  let exception := (given? fields "exception").map Value.display
  let below := (exception.map ("\n" ++ ·)).getD ""
  match given? fields "stack" with
  | none => below
  | some stack =>
    let raised := exception.isSome || (fields.get? "exc_info").any Value.isTrue
    let rule := if raised then "\n\n" ++ String.ofList (List.replicate 79 '=') ++ "\n" else ""
    "\n" ++ stack.display ++ rule ++ below

/-- A line for people, of values that can be written. -/
def consoleLine (l : Logging) (timestamp : String) (r : Record) : String :=
  let fields := lineFields l r
  let head := [
    timestamp, "[" ++ padRight 9 r.level.name ++ "]", padRight 30 r.event,
    "[" ++ loggerName r.logger ++ "]"]
  let part := (fields.get? "logger_name").toList.map fun v => "[" ++ v.display ++ "]"
  let rest := (sortByName (fields.filter (!placedNames.contains ·.1))).map fun (name, v) =>
    name ++ "=" ++ consoleValue v
  let text := " ".intercalate ((head ++ part ++ rest).filter (· ≠ ""))
  String.ofList (Text.dropEndWhile (· = ' ') text.toList) ++ traces fields

/-- What a line tells of every event. -/
def ownFields (timestamp : String) (r : Record) : Fields := [
  ("event", .text r.event), ("level", .text r.level.name),
  ("logger", .text (loggerName r.logger)), ("timestamp", .text timestamp)]

/-- A line for programs: one object, of values that can be written. -/
def jsonLine (l : Logging) (timestamp : String) (r : Record) : String :=
  Json.ascii.line (told (.object (lineFields l r ++ ownFields timestamp r)))

/-- What a handler writes for a record. -/
def Handler.entry (l : Logging) (timestamp : String) (r : Record) : Handler → String
  | .silent => ""
  | .lines json => (if json then jsonLine l timestamp r else consoleLine l timestamp r) ++ "\n"

/-- What records leave behind. Each goes to every handler. -/
def Logging.write (l : Logging) (timestamp : String) (records : List Record) : String :=
  String.join ((records.filter l.isWritten).flatMap fun r => l.handlers.map (·.entry l timestamp r))

end BuildLauncher.Log

import BuildLauncher.Failure
import BuildLauncher.Launch.Mount
import BuildLauncher.Report.Basic
import BuildLauncher.Report.Columns
import BuildLauncher.Text.Markup

/-!
# Reports for people

A report is shown as a status line and a line for each field, folded to the width of a screen.
Messages and details may hold markup; fields are shown as they are.
-/
namespace BuildLauncher.Report

open Text

/-- The width of the screen in cells. -/
def screenWidth : Nat := 120

/-- Lines as one text, each with a newline. -/
def unlines (lines : List (List Char)) : List Char := lines.flatMap fun line => line ++ ['\n']

/-- Pieces as one text, separated by blanks and folded to the screen. -/
def foldPieces (pieces : List Styled) : List Styled :=
  wrap screenWidth (Styled.concat (pieces.intersperse (.bare [' '])))

/-- Lines as they are shown. None of them is wider than the screen. -/
def showLines (lines : List Styled) : List Char :=
  unlines (lines.map fun line => (boundRuns screenWidth line.runs).flatten)

def paragraph (pieces : List Styled) : List Char := showLines (foldPieces pieces)

/-- A text that is shown as it is. -/
def literal (s : String) : Styled := .bare (dropControls s.toList)

/-- A text that is shown as it is, in a style. -/
def styled (s : String) : Styled := .whole (dropControls s.toList)

/-- A text with markup. -/
def marked (s : String) : Except Failure Styled := (renderMarkup s.toList).mapError .markup

/-- Looks up the styles of all lines. -/
def checkLines (lines : List Styled) : Except Failure Unit :=
  (lines.forM checkStyles).mapError .markup

/-- A paragraph with styles that are given in a text with markup. -/
def markedParagraph (pieces : List Styled) : Except Failure (List Char) := do
  let lines := foldPieces pieces
  checkLines lines
  return showLines lines

/-- Is the operation one that was not carried out? -/
def isDryRun (r : Report) : Bool :=
  (r.info.bind fun info => info.get? "dry_run").any Value.isTrue

def statusLine (r : Report) : List Char :=
  let mark := if isDryRun r then [styled "  (dry run)"] else []
  paragraph ([styled "OK", styled ("  " ++ r.op)] ++ mark)

/-- Is there a style for the values of a field? Images, paths and commands have one. -/
def isStyledField (name : String) : Bool :=
  ["image", "context", "config_path"].contains name || name.endsWith "_dir" ||
    name.endsWith "command"

def fieldLine (name : String) (v : Value) : List Char :=
  let shown := if isStyledField name then styled v.display else literal v.display
  paragraph [styled ("  " ++ name ++ ":"), shown]

/-- One line for each entry, below a heading. The values are such as can be written. -/
def entries (heading : String) (fields : Fields) : Except Failure (List Char) := do
  let lines ← fields.mapM fun (name, v) => do
    markedParagraph [← marked ("    " ++ name ++ ": " ++ v.display)]
  return paragraph [styled heading] ++ lines.flatten

/-- What is known about the run, after an empty line. -/
def infoLines (r : Report) : Except Failure (List Char) :=
  match r.info with
  | none | some [] => .ok []
  | some info => (entries "  meta:" info).map ('\n' :: ·)

/-- The three parts of a mount. The last two colons divide them. -/
def splitMount : Value → Except Failure (List String)
  | .text spec =>
    match (spec.toList.splitOn ':').reverse with
    | mode :: destination :: source :: more =>
      let source := [':'].intercalate (more.reverse ++ [source])
      .ok [String.ofList source, String.ofList destination, String.ofList mode]
    | parts => .error (.shortMount parts.length)
  | v => .error (.mountNotText v.kind)

/-- The mounts that a field lists: the items of a list, the names of an object, or the characters of
a text. -/
def mountsOf : Value → Except Failure (List Value)
  | .list items => .ok items
  | .object fields => .ok (fields.map fun f => .text f.1)
  | .text s => .ok (s.toList.map fun c => .text (String.singleton c))
  | v => .error (.mountsNotListed v.kind)

/-- The cells of all mounts. Source and destination may hold markup. -/
def mountCells (mounts : List (List String)) : Except Failure (List (List Styled)) := do
  let column (i : Nat) := mounts.map fun parts => parts.getD i ""
  let sources ← (column 0).mapM marked
  let destinations ← (column 1).mapM marked
  let modes := (column 2).map literal
  return List.zipWith (fun source rest => source :: rest) sources
    (List.zipWith (fun destination mode => [destination, mode]) destinations modes)

def mountTable (v : Value) : Except Failure (List Char) := do
  let mounts ← (← mountsOf v).mapM splitMount
  let header := ["Source", "Destination", "Mode"].map literal
  let rows := header :: (← mountCells mounts)
  checkLines (tableTexts screenWidth rows)
  return paragraph [styled "  mounts:"] ++ unlines (tableLines screenWidth rows)

/-- The table of mounts, if the report has any. -/
def mountLines (r : Report) : Except Failure (List Char) :=
  match r.data.get? "mounts" with
  | some v => if v.isTrue then mountTable v else .ok []
  | none => .ok []

/-- A field of the data, empty where there is none. -/
def dataOr (r : Report) (name : String) (default : String) : Value :=
  (r.data.get? name).getD (.text default)

def dataLine (r : Report) (name : String) : List Char := fieldLine name (dataOr r name "")

/-- The message of a failed operation. -/
def errorMessage (r : Report) : String :=
  (r.error.map ReportError.message).getD "Unknown error"

def renderError (r : Report) (verbose : Bool) : Except Failure (List Char) := do
  let message ← marked (errorMessage r)
  let head ← markedParagraph [styled "ERROR", styled ("  " ++ r.op), literal " — ", message]
  match r.error with
  | some e =>
    if verbose && !e.detail.isEmpty then return head ++ (← entries "  detail:" e.detail)
    return head
  | none => return head

def renderBuild (r : Report) (verbose : Bool) : Except Failure (List Char) := do
  let shown := statusLine r ++ ["image", "context", "command"].flatMap (dataLine r)
  if verbose then return shown ++ (← infoLines r)
  return shown

def renderLaunch (r : Report) (verbose : Bool) : Except Failure (List Char) := do
  let build := match r.data.get? "build_command" with
    | some v => if v.isTrue then v else .text "(skipped)"
    | none => .text "(skipped)"
  let shown := statusLine r ++ ["image", "target_dir"].flatMap (dataLine r) ++
    fieldLine "build_command" build ++ dataLine r "run_command"
  if verbose then return shown ++ (← mountLines r) ++ (← infoLines r)
  return shown

def renderPlan (r : Report) : Except Failure (List Char) := do
  let config := dataOr r "config_path" ""
  let shown := statusLine r ++
    ["image", "volume", "docker", "launcher_dir", "projects_dir", "target_dir"].flatMap
      (dataLine r) ++
    (if config.isTrue then fieldLine "config_path" config else []) ++
    ["build_command", "run_command"].flatMap (dataLine r)
  return shown ++ (← mountLines r)

/-- Lists and objects are shown as JSON, all else as it is read. Those that have no line in JSON cannot
be shown. -/
def plainValue : Value → Value
  | .list items => .text (Json.asciiCompact.line (.list items))
  | .object fields => .text (Json.asciiCompact.line (.object fields))
  | v => v

def renderOther (r : Report) (verbose : Bool) : Except Failure (List Char) := do
  let shown := statusLine r ++ r.data.flatMap fun (name, v) => fieldLine name (plainValue v)
  if verbose then return shown ++ (← infoLines r)
  return shown

/-- The report as a text of lines, without newlines at its end. -/
def render (r : Report) (verbose : Bool) : Except Failure String := do
  let shown ←
    if !r.ok then renderError r verbose
    else if r.op = "build_image" then renderBuild r verbose
    else if r.op = "launch" then renderLaunch r verbose
    else if r.op = "plan" then renderPlan r
    else renderOther r verbose
  return String.ofList (dropEndWhile (· = '\n') shown)

/-- The report in one line. -/
def renderQuiet (r : Report) : String :=
  if r.ok then "OK: " ++ r.op else "ERROR: " ++ r.op ++ " — " ++ errorMessage r

end BuildLauncher.Report

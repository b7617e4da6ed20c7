import BuildLauncher.Settings.ConfigFile

/-!
# Assembling the settings

Four sources give settings: the arguments of the program, the environment, a file, and the defaults.
Each field comes from the first of them that gives it; sections are merged key by key.
-/
namespace BuildLauncher

open Checking Files

variable [Platform]

/-- What the caller asks for. -/
structure SettingsRequest where
  configPath : Option String
  baseDir : Option String
  arguments : Fields

/-- The arguments that have a value. One that is null counts as not given. -/
def SettingsRequest.given (r : SettingsRequest) : Fields := r.arguments.filter (!·.2.isNull)

/-- The variable that names the launcher directory. -/
def baseDirVariable : String := "RETH_BUILD_BASE_DIR"

namespace Settings

/-- The variable of a field, under its name in lower case. -/
def variableOf (name : String) : String :=
  if sourceName name = name then Environment.variableStart ++ name else Text.lower (sourceName name)

/-- Fields that are single values, in their order. -/
def scalarNames : List String := [
  "base_dir", "image", "volume", "docker", "json_output", "quiet", "verbose", "log_json", "dry_run"]

/-- The fields that the environment gives. -/
def environmentFields (env : Environment) : Except Failure Fields := do
  let env := env.folded
  follow (.readVariables env)
  let scalars := scalarNames.filterMap fun name =>
    (env.get? (variableOf name)).map fun text => (sourceName name, Value.text text)
  let layout ← env.section? "layout" LayoutSection.fieldNames ["readonly"]
  let runner ← env.section? "runner" RunnerSection.fieldNames []
  let sections := [("layout", layout), ("runner", runner)].filterMap fun (name, value) =>
    value.map fun value => (name, value)
  return scalars ++ sections

/-- The file with settings: the one asked for if it is there, or else the nearest one. -/
def chooseConfig (v : View) (env : Environment) (request : SettingsRequest) :
    Except Error (Option Path) :=
  match request.configPath.filter (· ≠ "") with
  | some text => do
    let path := Path.ofText text
    return if ← v.isFile path then some path else none
  | none => findConfig v env (request.baseDir.map Path.ofText)

/-- The launcher directory, if one is given or found: the one asked for, the one with the file, or,
where no variable names one, the nearest one with a Dockerfile. -/
def chooseBaseDir (v : View) (env : Environment) (request : SettingsRequest)
    (config : Option Path) : Except Error (Option Path) :=
  match request.baseDir, config with
  | some text, _ => .ok (some (Path.ofText text))
  | none, some path => .ok (some path.parent)
  | none, none =>
    if (env.nonEmpty? baseDirVariable).isSome then .ok none else findLauncherDir v none

def pathCulprit (path : Path) : Culprit :=
  ⟨"PosixPath(" ++ Text.quoted path.text ++ ")", "PosixPath"⟩

/-- A launcher directory in its canonical form. A path that no file can have is an issue with the
input; all else that can go wrong is a failure. -/
def checkBaseDir (v : View) (env : Environment) (path : Path) (culprit : Culprit) :
    Except Failure (Checked Path) := do
  follow (.resolve v path)
  match launcherDir v env path with
  | .ok directory => return .valid directory
  | .error .nulCharacter =>
    return .invalid [⟨[.name "base_dir"], .refused Error.nulCharacter.message, culprit⟩]
  | .error e => throw (.files e)

/-- The launcher directory from the first source that gives one: an argument, the choice for the
request, another source, and at last the working directory. -/
def baseDirOf (v : View) (env : Environment) (arguments : Fields) (chosen : Option Path)
    (merged : Fields) : Except Failure (Checked Path) :=
  let ofValue : Value → Except Failure (Checked Path)
    | .text s => checkBaseDir v env (Path.ofText s) (.ofValue (.text s))
    | other => .ok ((Checked.fault .notPath other).under (.name "base_dir"))
  match arguments.get? "base_dir", chosen, merged.get? "base_dir" with
  | some value, _, _ => ofValue value
  | none, some path, _ => checkBaseDir v env path (pathCulprit path)
  | none, none, some value => ofValue value
  | none, none, none =>
    match v.currentPath with
    | .ok path => checkBaseDir v env path (pathCulprit path)
    | .error e => .error (.files e)

/-- Fields that the settings do not have. -/
def surplus (merged : Fields) : Checked Unit :=
  match merged.filter (!fieldNames.contains ·.1) with
  | [] => .valid ()
  | extra => .invalid (extra.map fun (name, v) => ⟨[.name name], .surplus, .ofValue v⟩)

/-- The settings that the merged fields spell. -/
def ofFields (baseDir : Checked Path) (config : Option Path) (merged : Fields) :
    Checked Settings :=
  let text (name default : String) := field merged (sourceName name) default asText
  let flag (name : String) := field merged name false asBool
  Settings.mk <$> baseDir <*> pure config
    <*> text "image" "build-reth:dev"
    <*> text "volume" "build-reth_target_dir"
    <*> text "docker" "docker"
    <*> flag "json_output" <*> flag "quiet" <*> flag "verbose" <*> flag "log_json"
    <*> flag "dry_run"
    <*> field merged "layout" LayoutSection.default LayoutSection.ofValue
    <*> field merged "runner" RunnerSection.default RunnerSection.ofValue
    <* surplus merged

/-- The settings for a request. -/
def assemble (v : View) (env : Environment) (request : SettingsRequest) :
    Except Failure Settings := do
  follow (.search v env request.configPath request.baseDir)
  let config ← (chooseConfig v env request).mapError .files
  let chosen ← (chooseBaseDir v env request config).mapError .files
  let fromFile ← readConfig? v config
  let fromEnvironment ← environmentFields env
  let arguments := properFields (("config_path", .null) :: underSourceNames request.given)
  follow (.merge [fromFile, fromEnvironment, arguments])
  let merged := mergeFields (mergeFields fromFile fromEnvironment) arguments
  match ofFields (← baseDirOf v env arguments chosen merged) config merged with
  | .valid settings => return settings
  | .invalid issues => throw (.invalidSettings issues)

end Settings
end BuildLauncher

import BuildLauncher.Files.Changes
import BuildLauncher.Launch.Programs
import BuildLauncher.Report.Basic
import BuildLauncher.Settings.Basic

/-!
# Launching

Build the image, check the target, prepare the caches, run: each step is checked before the next one
starts, and the first that fails decides the report.
-/
namespace BuildLauncher

open Files

/-- A launcher for one checkout. -/
structure Launcher where
  settings : Settings
  /-- The directory with the Dockerfile and the caches. -/
  directory : Path
deriving DecidableEq

namespace Launcher

def layout (l : Launcher) : ProjectLayout := .around l.directory l.settings.layout

def ofSettings (v : View) (env : Environment) (settings : Settings) : Except Error Launcher :=
  (launcherDir v env settings.baseDir).map (⟨settings, ·⟩)

def mounts (l : Launcher) : List Mount := Mount.forLayout l.layout l.settings.volume

def buildArgv (l : Launcher) : List String :=
  engineCommand l.settings.docker l.settings.image l.layout.launcherDir

def runArgv (l : Launcher) (extra : List String) : List String :=
  runnerCommand l.settings.runner l.settings.image l.mounts extra

def mountSpecs (l : Launcher) : Value := .list (l.mounts.map fun m => .text m.spec)

def noDockerfile (l : Launcher) : String :=
  "No Dockerfile in launcher directory: " ++ l.layout.launcherDir.text

def noTarget (l : Launcher) : String :=
  "Target directory not found: " ++ l.layout.targetDir.text

/-- A warning for each checkout to read that is not there. -/
def readonlyWarnings (l : Launcher) (v : View) : Except Error (List String) :=
  (l.layout.missingReadonly v).map fun paths =>
    paths.map fun path => "Read-only dependency not found: " ++ path.text

/-- What a plan tells. -/
def planData (l : Launcher) (extra : List String) : Fields := [
  ("image", .text l.settings.image), ("volume", .text l.settings.volume),
  ("docker", .text l.settings.docker),
  ("config_path", .text ((l.settings.configPath.map Path.text).getD "")),
  ("launcher_dir", .text l.layout.launcherDir.text),
  ("projects_dir", .text l.layout.projectsDir.text),
  ("target_dir", .text l.layout.targetDir.text),
  ("build_command", .text (Text.shellJoin l.buildArgv)),
  ("run_command", .text (Text.shellJoin (l.runArgv extra))), ("mounts", l.mountSpecs)]

/-- What a launch would do, and what would be in its way. -/
def planIn (l : Launcher) (v : View) (extra : List String) : Except Error Report := do
  let hasDockerfile ← v.isFile l.layout.dockerfile
  let hasTarget ← v.isDirectory l.layout.targetDir
  let readonly ← l.readonlyWarnings v
  return {
    ok := true
    op := "plan"
    data := l.planData extra
    warnings :=
      (if hasDockerfile then [] else [l.noDockerfile]) ++
        (if hasTarget then [] else [l.noTarget]) ++ readonly
    error := none
    info := none }

def plan (l : Launcher) (extra : List String) : Launching Report :=
  Launching.ofFiles fun v => l.planIn v extra

/-- The report of a failed operation, which is logged as well. -/
def fail (op code message : String) (warnings : List String) (data detail : Fields) :
    Launching Report := do
  Launching.log "rethbuild.services.base" .debug (op ++ " failed: " ++ message)
  return ⟨false, op, data, warnings, some ⟨code, message, detail⟩, none⟩

/-- The detail of an error that ends the program with a status. -/
def exitDetail (status : Int) : Fields := [("exit_code", .int status)]

/-- The status for a command that cannot be started. -/
def notFoundStatus : Int := 127

/-- What marks the report of an operation that was not carried out. -/
def dryRunInfo : Option Fields := some [("dry_run", .bool true)]

def serviceLogger : String := "rethbuild.services.launch"

/-- What every report of a build tells. -/
def buildData (l : Launcher) : Fields := [
  ("image", .text l.settings.image), ("context", .text l.layout.launcherDir.text),
  ("command", .text (Text.shellJoin l.buildArgv))]

/-- Builds the image and gives it its tag. -/
def buildImageBy (engine : Executor) (l : Launcher) : Launching Report := do
  let op := "build_image"
  let image := l.settings.image
  let context := l.layout.launcherDir
  let data := l.buildData
  if !(← Launching.ofFiles (·.isFile l.layout.dockerfile)) then
    return ← fail op "DOCKERFILE_MISSING" l.noDockerfile [] data (exitDetail 1)
  if l.settings.dryRun then return ⟨true, op, data, [], none, dryRunInfo⟩
  let start ← Launching.tick
  match ← orNotFound (buildBy engine l.settings.docker image context) with
  | .error (command, reason) =>
    let message :=
      "Container engine " ++ Text.quoted command ++ " is not available (" ++ reason ++ ")"
    fail op "ENGINE_NOT_FOUND" message [] data (exitDetail notFoundStatus)
  | .ok outcome =>
    if !outcome.ok then
      let message :=
        "Image build for " ++ image ++ " exited with status " ++ toString outcome.returncode
      return ← fail op "BUILD_FAILED" message [] data (exitDetail outcome.returncode)
    Launching.log serviceLogger .info ("built image " ++ image)
    let stop ← Launching.tick
    return ⟨true, op, data ++ [("returncode", .int outcome.returncode)], [], none,
      some [("duration_ms", elapsed start stop)]⟩

def buildImage : Launcher → Launching Report := buildImageBy runCommand

def caches (l : Launcher) : List Path := [l.layout.cargoGit, l.layout.cargoRegistry]

/-- Creates the directories for the caches. The first that cannot be created is given with the
reason. -/
def prepareCaches : List Path → Launching (Option (Path × String))
  | [] => return none
  | cache :: rest => do
    match ← Launching.change (·.ensureDirectory cache) with
    | .ok () => prepareCaches rest
    | .error .nulCharacter => throw (.files .nulCharacter)
    | .error e => return some (cache, e.message)

/-- The last step of a launch: the runner, once the target and the caches are there. -/
def startRunnerBy (runner : Executor) (l : Launcher) (start : Tick) (data : Fields)
    (warnings : List String) (extra : List String) : Launching Report := do
  let op := "launch"
  let target := l.layout.targetDir
  match ← orNotFound (runBy runner l.settings.runner l.settings.image l.mounts target extra) with
  | .error (command, reason) =>
    let message := "Build runner " ++ Text.quoted command ++ " is not available (" ++ reason ++ ")"
    fail op "RUNNER_NOT_FOUND" message warnings data (exitDetail notFoundStatus)
  | .ok outcome =>
    if !outcome.ok then
      let message :=
        l.settings.runner.command ++ " exited with status " ++ toString outcome.returncode
      return ← fail op "RUNNER_FAILED" message warnings data (exitDetail outcome.returncode)
    let stop ← Launching.tick
    return ⟨true, op, data ++ [("returncode", .int outcome.returncode)], warnings, none,
      some [("duration_ms", elapsed start stop)]⟩

/-- The steps of a launch after the build. -/
def runTargetBy (runner : Executor) (l : Launcher) (start : Tick) (data : Fields)
    (extra : List String) : Launching Report := do
  let op := "launch"
  if !(← Launching.ofFiles (·.isDirectory l.layout.targetDir)) then
    return ← fail op "TARGET_MISSING" l.noTarget [] data (exitDetail 1)
  let warnings ← Launching.ofFiles l.readonlyWarnings
  if l.settings.dryRun then return ⟨true, op, data, warnings, none, dryRunInfo⟩
  match ← prepareCaches l.caches with
  | some (cache, reason) =>
    let message := "Cannot create cache directory " ++ cache.text ++ ": " ++ reason
    fail op "CACHE_DIR_FAILED" message warnings data (exitDetail 1)
  | none => l.startRunnerBy runner start data warnings extra

/-- What every report of a launch tells. -/
def launchData (l : Launcher) (buildCommand : Value) (extra : List String) : Fields := [
  ("image", .text l.settings.image), ("volume", .text l.settings.volume),
  ("target_dir", .text l.layout.targetDir.text), ("build_command", buildCommand),
  ("run_command", .text (Text.shellJoin (l.runArgv extra))), ("mounts", l.mountSpecs)]

/-- Builds the image, unless that is to be skipped, and runs the build in it. -/
def launchBy (engine runner : Executor) (l : Launcher) (skipBuild : Bool) (extra : List String) :
    Launching Report := do
  let start ← Launching.tick
  if skipBuild then l.runTargetBy runner start (l.launchData .null extra) extra
  else
    let built ← l.buildImageBy engine
    let data := l.launchData ((built.data.get? "command").getD .null) extra
    match built.ok, built.error with
    | false, some e => fail "launch" e.code e.message [] data e.detail
    | _, _ => l.runTargetBy runner start data extra

def launch : Launcher → Bool → List String → Launching Report := launchBy runCommand runCommand

end Launcher
end BuildLauncher

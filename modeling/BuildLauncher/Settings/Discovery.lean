import BuildLauncher.Files.Resolve
import BuildLauncher.Settings.Environment

/-!
# Finding the launcher

From any directory of a checkout the launcher is found by looking at that directory and all above
it, the nearest first.
-/
namespace BuildLauncher

open Files

def configName : Path := Path.ofText "reth-build.toml"
def launcherName : Path := Path.ofText ".dev"
def dockerfileName : Path := Path.ofText "Dockerfile"

/-- The name of the variable that names the file with settings. -/
def configVariable : String := "RETH_BUILD_CONFIG"

/-- The first path that a test accepts. The test of a path is made only if all before it are
refused. -/
def firstAccepted (test : Path → Except Error Bool) : List Path → Except Error (Option Path)
  | [] => .ok none
  | path :: rest =>
    match test path with
    | .error e => .error e
    | .ok true => .ok (some path)
    | .ok false => firstAccepted test rest

/-- The directories from a canonical start up to the root. -/
def levels (v : View) (start : Path) : Except Error (List Path) :=
  (v.resolve start).map Path.ancestors

/-- Where a start is not given, the search starts in the working directory. -/
def startOr (v : View) (start : Option Path) : Except Error Path :=
  match start with
  | some path => .ok path
  | none => v.currentPath

/-- Where files with settings may lie: at a level, or in the launcher directory below it. -/
def configCandidates (levels : List Path) : List Path :=
  levels.flatMap fun level => [level.join configName, (level.join launcherName).join configName]

/-- The nearest file with settings. A variable that names one settles the search. -/
def findConfig (v : View) (env : Environment) (start : Option Path) :
    Except Error (Option Path) :=
  match env.nonEmpty? configVariable with
  | some text => do
    let path := Path.ofText text
    return if ← v.isFile path then some path else none
  | none => do firstAccepted v.isFile (configCandidates (← levels v (← startOr v start)))

/-- The nearest launcher directory with a Dockerfile. A Dockerfile elsewhere does not count. -/
def findLauncherDir (v : View) (start : Option Path) : Except Error (Option Path) := do
  let candidates := (← levels v (← startOr v start)).map (·.join launcherName)
  firstAccepted (fun path => v.isFile (path.join dockerfileName)) candidates

/-- The directory that a path to the launcher means. A file stands for the directory it lies in. -/
def launcherDir [Platform] (v : View) (env : Environment) (path : Path) : Except Error Path := do
  let canonical ← v.resolve (← expandHome (env.get? "HOME") path)
  return if ← v.isFile canonical then canonical.parent else canonical

end BuildLauncher

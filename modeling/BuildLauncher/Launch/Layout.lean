import BuildLauncher.Settings.Discovery

/-!
# Checkouts

The launcher directory holds the Dockerfile and the caches. Its grandparent is the projects
directory, where the target of the build and the checkouts it only reads lie side by side.
-/
namespace BuildLauncher

open Files

/-- Every path that a launch touches. -/
structure ProjectLayout where
  launcherDir : Path
  projectsDir : Path
  targetDir : Path
  outputDir : Path
  readonlyDirs : List Path
  cargoGit : Path
  cargoRegistry : Path
deriving DecidableEq, Repr

namespace ProjectLayout

/-- The grandparent of the launcher directory. -/
def projectsOf (launcher : Path) : Path := launcher.parent.parent

/-- The layout around a launcher directory in canonical form. -/
def around (launcher : Path) (s : LayoutSection) : ProjectLayout :=
  let projects := projectsOf launcher
  let target := projects.join (Path.ofText s.target)
  { launcherDir := launcher
    projectsDir := projects
    targetDir := target
    outputDir := target.join (Path.ofText s.targetSubdir)
    readonlyDirs := s.readonly.map fun name => projects.join (Path.ofText name)
    cargoGit := launcher.join (Path.ofText "cargo-git")
    cargoRegistry := launcher.join (Path.ofText "cargo-registry") }

/-- The layout for any path that means a launcher directory. -/
def resolve (v : View) (env : Environment) (baseDir : Path) (s : LayoutSection) :
    Except Error ProjectLayout :=
  (BuildLauncher.launcherDir v env baseDir).map (around · s)

def dockerfile (l : ProjectLayout) : Path := l.launcherDir.join dockerfileName

/-- The paths that are no directories. -/
def missing (v : View) : List Path → Except Error (List Path)
  | [] => .ok []
  | path :: rest => do
    let present ← v.isDirectory path
    let rest ← missing v rest
    return if present then rest else path :: rest

/-- Checkouts to read that are not there. -/
def missingReadonly (v : View) (l : ProjectLayout) : Except Error (List Path) :=
  missing v l.readonlyDirs

end ProjectLayout
end BuildLauncher

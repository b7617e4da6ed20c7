import BuildLauncher.Checking.Readers
import BuildLauncher.Launch.Layout

/-!
# Mounts

A mount shows a path of the host, or a volume, at a path of the container.
-/
namespace BuildLauncher

open Checking

inductive MountMode
  | readWrite
  | readOnly
deriving DecidableEq, Repr

def MountMode.text : MountMode → String
  | .readWrite => "rw"
  | .readOnly => "ro"

structure Mount where
  source : String
  destination : String
  mode : MountMode
deriving DecidableEq, Repr

namespace Mount

def spec (m : Mount) : String := m.source ++ ":" ++ m.destination ++ ":" ++ m.mode.text

def arguments (m : Mount) : List String := ["-v", m.spec]

def asMode : Value → Checked MountMode
  | .text s =>
    if s = "rw" then .valid .readWrite
    else if s = "ro" then .valid .readOnly
    else Checked.fault (.notOneOf ["rw", "ro"]) (.text s)
  | v => Checked.fault (.notOneOf ["rw", "ro"]) v

def ofFields (fields : Fields) : Checked Mount :=
  Mount.mk <$> required fields "source" asText <*> required fields "destination" asText
    <*> field fields "mode" .readWrite asMode

/-- The mounts of a launch: the caches, the volume over the output of the build, and each checkout
to read at its own path. -/
def forLayout (l : ProjectLayout) (volume : String) : List Mount :=
  [⟨l.cargoGit.text, "/usr/local/cargo/git", .readWrite⟩,
    ⟨l.cargoRegistry.text, "/usr/local/cargo/registry", .readWrite⟩,
    ⟨volume, l.outputDir.text, .readWrite⟩] ++
  l.readonlyDirs.map fun path => ⟨path.text, path.text, .readOnly⟩

/-- The style in which a mount is shown. -/
def styleName (spec : String) : String :=
  if ":ro".toList.isSuffixOf spec.toList then "rb.mount.ro" else "rb.mount.rw"

end Mount
end BuildLauncher

import BuildLauncher.Launch.Command
import BuildLauncher.Launch.Mount

/-!
# The engine and the runner

The container engine builds the image; the runner starts a container from it.
-/
namespace BuildLauncher

open Files

/-- The arguments with which the engine builds an image from a directory. -/
def engineArguments (tag : String) (context : Path) : List String :=
  ["build", "-t", tag, context.text]

def engineCommand (binary tag : String) (context : Path) : List String :=
  binary :: engineArguments tag context

/-- The arguments of the runner; the extra ones stand last and unchanged. -/
def runnerArguments (name image : String) (mounts : List Mount) (extra : List String) :
    List String :=
  ["--image", image, "--name", name] ++ mounts.flatMap Mount.arguments ++ extra

def runnerCommand (runner : RunnerSection) (image : String) (mounts : List Mount)
    (extra : List String) : List String :=
  runner.command :: runnerArguments runner.name image mounts extra

/-- Has the engine build an image. It runs where the launcher itself runs. -/
def buildBy (run : Executor) (binary tag : String) (context : Path) : Launching CommandOutcome :=
  run (engineCommand binary tag context) none

/-- Has the runner start a container, from the directory that is to be built. -/
def runBy (run : Executor) (runner : RunnerSection) (image : String) (mounts : List Mount)
    (cwd : Path) (extra : List String) : Launching CommandOutcome :=
  run (runnerCommand runner image mounts extra) (some cwd)

def buildWith := buildBy runCommand

def runWith := runBy runCommand

end BuildLauncher

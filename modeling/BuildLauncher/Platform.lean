import BuildLauncher.Failure
import BuildLauncher.Files.Walk

/-!
# What the program runs on

Users have home directories, and an interpreter follows nested data and links within links only so
deep. Both are as the system at hand has them.
-/
namespace BuildLauncher

open Files

/-- Work that is done by calls within calls. -/
inductive Descent
  /-- The file with settings and the launcher directory are searched for from canonical paths. -/
  | search (v : View) (env : List (String × String)) (configPath baseDir : Option String)
  /-- A path is made canonical. -/
  | resolve (v : View) (path : Path)
  | readDocument (text : List Char)
  | readVariables (entries : List (String × String))
  /-- The fields of several sources are merged, the weakest first. -/
  | merge (sources : List Fields)

class Platform where
  /-- The home directory of the user that runs the program, if the system knows one. -/
  ownHome : Option String
  /-- The home directory of a user, if there is one of this name. -/
  homeOf : String → Option String
  /-- How work ends that takes more calls than there may be. How many calls a level takes, and how many
  are left, depends on the interpreter and on where it is. -/
  exhaustion : Descent → Option Failure
  isUserError_exhaustion :
    ∀ {d : Descent} {f : Failure}, exhaustion d = some f → f.isUserError = false

/-- A system that knows no user but the one that runs the program, and calls without limit. Where no
platform is named, it is this one. -/
instance Platform.standard : Platform where
  ownHome := some "/root"
  homeOf user := if user = "root" then some "/root" else none
  exhaustion _ := none
  isUserError_exhaustion := nofun

/-- Goes on if there are calls enough. -/
def follow [Platform] (d : Descent) : Except Failure Unit :=
  match Platform.exhaustion d with
  | some f => .error f
  | none => .ok ()

@[simp] theorem follow_standard (d : Descent) : follow d = .ok () := rfl

theorem follow_eq_error [Platform] {d : Descent} {f : Failure} :
    follow d = .error f ↔ Platform.exhaustion d = some f := by
  unfold follow
  split <;> simp_all

end BuildLauncher

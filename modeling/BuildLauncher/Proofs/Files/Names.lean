import BuildLauncher.Files.Walk

/-!
# Names that are too long

A path is inspected without fail unless a name on the way is too long for any node.
-/
namespace BuildLauncher.Files

/-- The error for a path with a name that is too long. -/
def longName (path : Path) : Error := .refused .nameTooLong (.named path.text)

namespace View

/-- Does the walk along a path meet a name that is too long for any node? -/
def tooLong (v : View) (path : Path) : Bool :=
  !hasNul path.text &&
    match v.node? path.text with
    | .error .nameTooLong => true
    | _ => false

theorem test_eq_error {v : View} {kind : Node → Bool} {path : Path} {e : Error} :
    v.test kind path = .error e ↔ v.tooLong path = true ∧ longName path = e := by
  unfold test tooLong longName
  cases hasNul path.text with
  | true => simp
  | false =>
    cases v.node? path.text with
    | ok found => simp
    | error fault => cases fault <;> simp

theorem isFile_eq_error {v : View} {path : Path} {e : Error} :
    v.isFile path = .error e ↔ v.tooLong path = true ∧ longName path = e :=
  test_eq_error

theorem isDirectory_eq_error {v : View} {path : Path} {e : Error} :
    v.isDirectory path = .error e ↔ v.tooLong path = true ∧ longName path = e :=
  test_eq_error

end View
end BuildLauncher.Files

import BuildLauncher.Checking.Issue
import BuildLauncher.Files.Fault
import BuildLauncher.Text.Markup
import BuildLauncher.Text.Utf8
import BuildLauncher.Toml.Fault

/-!
# Failures

Every reason why an operation gives no answer. Invalid settings are reported to the user; the other
failures end the program.
-/
namespace BuildLauncher

inductive Failure
  | invalidSettings (issues : List Checking.Issue)
  | invalidToml (path : String) (reason : String)
  | invalidInput (model : String) (issues : List Checking.Issue)
  | notUtf8 (fault : Text.Utf8Fault)
  | hugeInteger (digits : Nat)
  | unreadableVariable (field : String)
  | files (error : Files.Error)
  | commandNotFound (command reason : String)
  | emptyCommand
  | markup (fault : Text.MarkupFault)
  | shortMount (parts : Nat)
  | mountNotText (kind : String)
  | mountsNotListed (kind : String)
deriving Repr

namespace Failure

/-- The model whose issues `invalidSettings` lists. -/
def settingsModel : String := "LauncherSettings"

def codecMessage (fault : Text.Utf8Fault) : String :=
  let octet := "0x" ++ String.ofList (Text.hex 2 fault.octet.toNat)
  let place :=
    if fault.count = 1 then "byte " ++ octet ++ " in position " ++ toString fault.position
    else
      "bytes in position " ++ toString fault.position ++ "-" ++
        toString (fault.position + fault.count - 1)
  "'utf-8' codec can't decode " ++ place ++ ": " ++ fault.problem.message

def message : Failure → String
  | .invalidSettings issues => "Invalid configuration: " ++ Checking.summary settingsModel issues
  | .invalidToml path reason => "Invalid TOML in " ++ path ++ ": " ++ reason
  | .invalidInput model issues => Checking.summary model issues
  | .notUtf8 fault => codecMessage fault
  | .hugeInteger digits => (Toml.Problem.hugeInteger digits).message
  | .unreadableVariable field =>
    "error parsing value for field " ++ "\"" ++ field ++ "\"" ++
      " from source \"EnvSettingsSource\""
  | .files error => error.message
  | .commandNotFound command reason => command ++ ": " ++ reason
  | .emptyCommand => "list index out of range"
  | .markup fault => fault.message
  | .shortMount parts =>
    "not enough values to unpack (expected 3, got " ++ toString parts ++ ")"
  | .mountNotText kind => "'" ++ kind ++ "' object has no attribute 'rsplit'"
  | .mountsNotListed kind => "'" ++ kind ++ "' object is not iterable"

/-- Is the failure one that the user is told about in one line? -/
def isUserError : Failure → Bool
  | .invalidSettings _ | .invalidToml .. => true
  | _ => false

end Failure
end BuildLauncher

import BuildLauncher.Platform
import BuildLauncher.Settings.Basic
import BuildLauncher.Settings.Discovery
import BuildLauncher.Toml.Document

/-!
# Settings from a file

The file is a TOML document in UTF-8. A path without a file gives no settings and no failure.
-/
namespace BuildLauncher

open Files

variable [Platform]

/-- The octets of the file that a path leads to. -/
def octetsAt (v : View) (path : Path) : List UInt8 :=
  match v.node? path.text with
  | .ok (_, .file content) => content
  | _ => []

/-- The TOML document at a path; without a file it is empty. -/
def readDocument (v : View) (path : Path) : Except Failure Fields := do
  if !(← (v.isFile path).mapError .files) then return []
  let text ← (Text.decode (octetsAt v path)).mapError .notUtf8
  let source := Toml.newlines text
  follow (.readDocument source)
  match Toml.read source with
  | .ok fields => return fields
  | .error ⟨.hugeInteger digits, _⟩ => throw (.hugeInteger digits)
  | .error fault => throw (.invalidToml path.text (fault.message source))

/-- The fields of the document at a path. -/
def readConfig (v : View) (path : Path) : Except Failure Fields :=
  (readDocument v path).map Settings.underSourceNames

/-- The document that was found, if one was. -/
def readDocument? (v : View) : Option Path → Except Failure Fields
  | none => .ok []
  | some path => readDocument v path

/-- The fields of the file that was found, if one was. -/
def readConfig? (v : View) (config : Option Path) : Except Failure Fields :=
  (readDocument? v config).map Settings.underSourceNames

end BuildLauncher

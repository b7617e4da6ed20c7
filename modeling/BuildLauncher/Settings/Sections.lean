import BuildLauncher.Checking.Readers

/-!
# Sections of the settings

What the defaults are for, a file with settings need not repeat.
-/
namespace BuildLauncher

open Checking

/-- A name that a section takes for a checkout: neither empty nor absolute. -/
def IsRelativeName (s : String) : Prop := s ≠ "" ∧ s.toList.head? ≠ some '/'

instance (s : String) : Decidable (IsRelativeName s) := inferInstanceAs (Decidable (_ ∧ _))

/-- Where the checkouts lie under the projects directory. -/
structure LayoutSection where
  target : String
  readonly : List String
  targetSubdir : String
  target_relative : IsRelativeName target
  targetSubdir_relative : IsRelativeName targetSubdir
deriving DecidableEq

/-- How the build runner is called. -/
structure RunnerSection where
  command : String
  name : String
deriving DecidableEq, Repr

def asRelativeName (v : Value) : Checked { s : String // IsRelativeName s } :=
  (asText v).andThen fun s =>
    if h : IsRelativeName s then .valid ⟨s, h⟩
    else
      Checked.fault
        (.refused ("must be a non-empty relative path, got " ++ Text.quoted s)) v

namespace LayoutSection

def ofParts (target : { s : String // IsRelativeName s }) (readonly : List String)
    (targetSubdir : { s : String // IsRelativeName s }) : LayoutSection :=
  ⟨target.val, readonly, targetSubdir.val, target.property, targetSubdir.property⟩

def ofFields (fields : Fields) : Checked LayoutSection :=
  ofParts <$> field fields "target" ⟨"reth", by decide⟩ asRelativeName
    <*> field fields "readonly" ["alloy"] asTexts
    <*> field fields "target_subdir" ⟨"target", by decide⟩ asRelativeName

def ofValue (v : Value) : Checked LayoutSection := (asModel "LayoutConfig" v).andThen ofFields

def default : LayoutSection := ofParts ⟨"reth", by decide⟩ ["alloy"] ⟨"target", by decide⟩

theorem ofFields_nil : ofFields [] = .valid default := rfl

def toFields (s : LayoutSection) : Fields := [
  ("target", .text s.target), ("readonly", .list (s.readonly.map .text)),
  ("target_subdir", .text s.targetSubdir)]

def fieldNames : List String := ["target", "readonly", "target_subdir"]

end LayoutSection

namespace RunnerSection

def ofFields (fields : Fields) : Checked RunnerSection :=
  RunnerSection.mk <$> field fields "command" "in-docker" asText
    <*> field fields "name" "build-reth" asText

def ofValue (v : Value) : Checked RunnerSection := (asModel "RunnerConfig" v).andThen ofFields

def default : RunnerSection := ⟨"in-docker", "build-reth"⟩

theorem ofFields_nil : ofFields [] = .valid default := rfl

def toFields (s : RunnerSection) : Fields :=
  [("command", .text s.command), ("name", .text s.name)]

def fieldNames : List String := ["command", "name"]

end RunnerSection
end BuildLauncher

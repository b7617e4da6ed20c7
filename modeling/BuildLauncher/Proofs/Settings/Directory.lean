import BuildLauncher.Proofs.Files.Absolute
import BuildLauncher.Proofs.Settings.Escapes
import BuildLauncher.Proofs.Settings.Spelling

/-!
# The launcher directory of the settings

The launcher directory of settings is that of the path which the first source gives. It is a path
from the root, and such a path means the same launcher directory in every working directory and in
every environment (`launcherDir_seenFrom`).
-/
namespace BuildLauncher

open Checking Files

variable {v : View} {env : Environment} {path directory : Path} {d : Option Location}

theorem expandHome_of_isAbsolute {home : Option String} (h : path.isAbsolute = true) :
    expandHome home path = .ok path :=
  Settings.expandHome_of_not_startsAtHome fun hhome => Path.isAbsolute_iff.mp h hhome.1

theorem isAbsolute_launcherDir (h : launcherDir v env path = .ok directory) :
    directory.isAbsolute = true := by
  obtain ⟨start, canonical, -, hcanonical, ⟨-, rfl⟩ | ⟨-, rfl⟩⟩ := Settings.launcherDir_eq_ok h
  · exact View.isAbsolute_resolve hcanonical
  · exact Path.isAbsolute_parent.trans (View.isAbsolute_resolve hcanonical)

/-- A path from the root means the same launcher directory wherever it is read. -/
theorem launcherDir_seenFrom (h : path.isAbsolute = true) (env other : Environment) :
    launcherDir (v.seenFrom d) env path = launcherDir v other path := by
  simp only [launcherDir, expandHome_of_isAbsolute h, ok_bind, View.resolve_seenFrom h]
  refine bind_congr_ok fun canonical hcanonical => ?_
  rw [View.isFile_seenFrom (View.isAbsolute_resolve hcanonical)]

namespace Settings

variable {arguments merged : Fields} {chosen : Option Path} {request : SettingsRequest}
  {s : Settings}

theorem checkBaseDir_eq_valid {culprit : Culprit} :
    checkBaseDir v env path culprit = .ok (.valid directory) ↔
      launcherDir v env path = .ok directory := by
  rw [checkBaseDir, follow_standard, ok_bind]
  split <;> simp_all [pure, Except.pure, throw_eq_error]

/-- A valid launcher directory is that of the path which the first source gives. -/
theorem baseDirOf_eq_valid :
    baseDirOf v env arguments chosen merged = .ok (.valid directory) ↔
      ∃ path, namedDir v arguments chosen merged = .ok (some path) ∧
        launcherDir v env path = .ok directory := by
  simp only [baseDirOf, namedDir]
  cases arguments.get? "base_dir" with
  | some value => cases value <;> simp [checkBaseDir_eq_valid, Checked.fault, Checked.under]
  | none =>
    cases chosen with
    | some path => simp [checkBaseDir_eq_valid]
    | none =>
      cases merged.get? "base_dir" with
      | some value => cases value <;> simp [checkBaseDir_eq_valid, Checked.fault, Checked.under]
      | none =>
        cases v.currentPath with
        | error e => simp
        | ok path => simp [checkBaseDir_eq_valid]

/-- The launcher directory of settings is a path from the root. -/
theorem isAbsolute_baseDir (h : assemble v env request = .ok s) : s.baseDir.isAbsolute = true := by
  obtain ⟨_, _, _, _, baseDir, -, hbaseDir, made⟩ := assemble_eq_ok.mp h
  rw [made.baseDir, baseDirOf_eq_valid] at hbaseDir
  obtain ⟨path, -, hpath⟩ := hbaseDir
  exact isAbsolute_launcherDir hpath

end Settings
end BuildLauncher

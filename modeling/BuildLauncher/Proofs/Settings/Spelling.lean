import BuildLauncher.Proofs.Files.Canonical
import BuildLauncher.Proofs.Settings.Assembling

/-!
# Spellings of the launcher directory

One directory has many spellings: relative, through links, or by a file that lies in it. The settings
are the same for all of them, and for the directory itself (`assemble_spelling`). Only of a text that
starts at a home directory the search for a file with settings may take another view: it reads the
`~` as a name.
-/
namespace BuildLauncher

open Checking Files Environment

/-- Does a path start at somebody's home directory? -/
def Files.Path.StartsAtHome (p : Path) : Prop :=
  p.anchor = .here ∧ ∃ name ∈ p.names.head?, name.toList.head? = some '~'

instance (p : Path) : Decidable p.StartsAtHome := inferInstanceAs (Decidable (_ ∧ _))

namespace Settings

variable {v : View} {env : Environment} {path directory file : Path}

section Spelling

theorem expandHome_of_not_startsAtHome {home : Option String} (h : ¬path.StartsAtHome) :
    expandHome home path = .ok path := by
  unfold expandHome
  split
  · rename_i name rest hanchor hnames
    exact if_neg fun hhome => h ⟨hanchor, name, by simp [hnames], hhome⟩
  · rfl

/-- A launcher directory is a canonical path, or the directory of a file at one. -/
theorem launcherDir_eq_ok (h : launcherDir v env path = .ok directory) :
    ∃ start canonical, expandHome (env.get? "HOME") path = .ok start ∧
      v.resolve start = .ok canonical ∧
      (v.isFile canonical = .ok false ∧ directory = canonical ∨
        v.isFile canonical = .ok true ∧ directory = canonical.parent) := by
  obtain ⟨start, hstart, h⟩ := bind_eq_ok h
  obtain ⟨canonical, hcanonical, h⟩ := bind_eq_ok h
  obtain ⟨isFile, hfile, h⟩ := bind_eq_ok h
  refine ⟨start, canonical, hstart, hcanonical, ?_⟩
  obtain rfl := Except.ok.inj h
  cases isFile with
  | false => exact .inl ⟨hfile, rfl⟩
  | true => exact .inr ⟨hfile, rfl⟩

/-- A launcher directory without links means itself, and is no file. -/
theorem launcherDir_self (h : launcherDir v env path = .ok directory)
    (hphysical : v.Physical directory) :
    v.resolve directory = .ok directory ∧ v.isFile directory = .ok false := by
  obtain ⟨start, canonical, -, hcanonical, ⟨hfile, rfl⟩ | ⟨hfile, rfl⟩⟩ := launcherDir_eq_ok h
  · obtain ⟨hnul, hloop⟩ := View.askable_of_resolve hcanonical
    exact ⟨hphysical.resolve hnul hloop, hfile⟩
  · have hroot : canonical.anchor = .root := hphysical.root
    obtain ⟨hnul, -⟩ := View.askable_of_resolve hcanonical
    obtain ⟨location, hnode⟩ := View.node?_parent hroot hfile
    exact ⟨hphysical.resolve (View.hasNul_parent hroot hnul) (by simp [hnode]),
      View.isFile_parent hroot hfile⟩

/-- No file with settings lies below a file. -/
theorem firstAccepted_below_file {paths : List Path} (hroot : file.anchor = .root)
    (hfile : v.isFile file = .ok true)
    (hroom : ∀ candidate ∈ configCandidates [file], candidate.text.utf8ByteSize < textLimit) :
    firstAccepted v.isFile (configCandidates [file] ++ paths) = firstAccepted v.isFile paths := by
  have hplain := View.isFile_below (q := configName) hroot hfile (by decide) (by decide)
    (hroom _ (by simp [configCandidates]))
  have hnested := View.isFile_below (q := launcherName.join configName) hroot hfile (by decide)
    (by decide) (hroom _ (by simp [configCandidates, Path.join_join]))
  simp [configCandidates, firstAccepted, hplain, Path.join_join, hnested]

/-- The search from any spelling finds what it finds from the directory. -/
theorem findConfig_spelling (h : launcherDir v env path = .ok directory)
    (hphysical : v.Physical directory) (hhome : ¬path.StartsAtHome)
    (hroom : ∀ file, v.resolve path = .ok file → v.isFile file = .ok true →
      ∀ candidate ∈ configCandidates [file], candidate.text.utf8ByteSize < textLimit) :
    findConfig v env (some path) = findConfig v env (some directory) := by
  unfold findConfig
  split
  · rfl
  obtain ⟨hself, -⟩ := launcherDir_self h hphysical
  obtain ⟨start, canonical, hstart, hcanonical, hcases⟩ := launcherDir_eq_ok h
  rw [expandHome_of_not_startsAtHome hhome] at hstart
  obtain rfl := Except.ok.inj hstart
  simp only [startOr, ok_bind, levels, hcanonical, hself, map_ok]
  obtain ⟨-, rfl⟩ | ⟨hfile, rfl⟩ := hcases
  · rfl
  · have hroot : canonical.anchor = .root := hphysical.root
    have hne : canonical.names ≠ [] := View.names_ne_nil_of_isFile hroot hfile
    rw [Path.ancestors_eq_cons hne]
    exact firstAccepted_below_file hroot hfile (hroom _ hcanonical hfile)

theorem launcherDir_directory (h : launcherDir v env path = .ok directory)
    (hphysical : v.Physical directory) : launcherDir v env directory = .ok directory := by
  obtain ⟨hself, hfile⟩ := launcherDir_self h hphysical
  have hhome : ¬directory.StartsAtHome := by simp [Path.StartsAtHome, hphysical.root]
  rw [launcherDir, expandHome_of_not_startsAtHome hhome, ok_bind, hself, ok_bind, hfile]
  rfl

/-- All spellings of a launcher directory give the same settings, or the same failure. -/
theorem assemble_spelling {text : String} {arguments : Fields}
    (h : launcherDir v env (Path.ofText text) = .ok directory)
    (hphysical : v.Physical directory)
    (hroom : ∀ file, v.resolve (Path.ofText text) = .ok file → v.isFile file = .ok true →
      ∀ candidate ∈ configCandidates [file], candidate.text.utf8ByteSize < textLimit)
    (hhome : (Path.ofText text).StartsAtHome →
      findConfig v env (some (Path.ofText text)) = findConfig v env (some directory)) :
    assemble v env ⟨none, some text, arguments⟩ =
      assemble v env ⟨none, some directory.text, arguments⟩ := by
  have hread : Path.ofText directory.text = directory := Path.ofText_text hphysical.root
  have hsearch : findConfig v env (some (Path.ofText text)) = findConfig v env (some directory) := by
    by_cases hstarts : (Path.ofText text).StartsAtHome
    · exact hhome hstarts
    · exact findConfig_spelling h hphysical hstarts hroom
  have hchoose : chooseConfig v env ⟨none, some text, arguments⟩ =
      chooseConfig v env ⟨none, some directory.text, arguments⟩ := by
    simpa only [chooseConfig, Option.filter_none, Option.map_some, hread] using hsearch
  have hbase (fields merged : Fields) :
      baseDirOf v env fields (some (Path.ofText text)) merged =
        baseDirOf v env fields (some (Path.ofText directory.text)) merged := by
    unfold baseDirOf
    cases fields.get? "base_dir" with
    | some value => rfl
    | none => simp only [checkBaseDir, follow_standard, ok_bind, hread, h,
      launcherDir_directory h hphysical]
  cases hconfig : chooseConfig v env ⟨none, some directory.text, arguments⟩ with
  | error e =>
    simp only [assemble, follow_standard, ok_bind, hchoose, hconfig, mapError_error, error_bind]
  | ok config =>
    rw [assemble_eq_of_chosen ⟨rfl, hchoose.trans hconfig, rfl⟩,
      assemble_eq_of_chosen ⟨rfl, hconfig, rfl⟩]
    exact bind_congr fun document => bind_congr fun environment => bind_congr fun _ =>
      congrArg (· >>= _) (hbase _ _)

/-- A launcher directory with a file of settings, and a link to a file in it. -/
def launcherView : View :=
  let entries : List (Location × Node) := [
    (["home"], .directory), (["home", ".dev"], .directory), (["home", ".dev", "Dockerfile"], .file []),
    (["home", ".dev", "reth-build.toml"], .file []), (["home", "reth"], .directory),
    (["home", "recipe"], .link ".dev/Dockerfile"), (["srv"], .directory)]
  ⟨⟨entries⟩, some ["srv"]⟩

theorem assemble_spelling_linked :
    assemble launcherView [] ⟨none, some "../home/reth/../recipe", []⟩ =
      assemble launcherView [] ⟨none, some (Path.ofText "/home/.dev").text, []⟩ := by
  have h : launcherDir launcherView [] (Path.ofText "../home/reth/../recipe") =
      .ok (Path.ofText "/home/.dev") := by
    decide +kernel
  have hresolve : launcherView.resolve (Path.ofText "../home/reth/../recipe") =
      .ok (Path.ofText "/home/.dev/Dockerfile") := by
    decide +kernel
  have hroom : ∀ candidate ∈ configCandidates [Path.ofText "/home/.dev/Dockerfile"],
      candidate.text.utf8ByteSize < textLimit := by
    decide +kernel
  refine assemble_spelling h (by decide +kernel) (fun file hfile _ => ?_) fun hhome => ?_
  · obtain rfl := Except.ok.inj (hresolve.symm.trans hfile)
    exact hroom
  · exact absurd hhome (by decide +kernel)

/-- The search takes `~` for a name, where the launcher directory takes it for the home directory. -/
theorem assemble_home :
    launcherDir launcherView [("HOME", "/home")] (Path.ofText "~/.dev") =
        .ok (Path.ofText "/home/.dev") ∧
      launcherView.Physical (Path.ofText "/home/.dev") ∧
      assemble launcherView [("HOME", "/home")] ⟨none, some "~/.dev", []⟩ ≠
        assemble launcherView [("HOME", "/home")] ⟨none, some "/home/.dev", []⟩ := by
  refine ⟨by decide +kernel, by decide +kernel, fun h => ?_⟩
  have hconfig := congrArg (fun made => made.toOption.bind (·.configPath)) h
  revert hconfig
  decide +kernel

end Spelling

end Settings
end BuildLauncher

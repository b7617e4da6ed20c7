import BuildLauncher.Launch.Mount
import BuildLauncher.Proofs.Files.Collapse
import BuildLauncher.Proofs.Settings.Directory

/-!
# Inside the projects directory

The target, its output and the checkouts to read are named by the settings. Each of them lies where
it should exactly if its name leads below the directory that it is seen from (`resolve_contained`).
Names that go down without climbing always do (`inside_of_goesDown`), such as the default ones; a valid
section may also hold others.
-/
namespace BuildLauncher

open Checking Files

variable {v : View} {env : Environment} {path directory : Path} {s : LayoutSection}

theorem straight_launcherDir (h : launcherDir v env path = .ok directory) :
    ".." ∉ directory.names := by
  obtain ⟨start, canonical, -, hcanonical, ⟨-, rfl⟩ | ⟨-, rfl⟩⟩ := Settings.launcherDir_eq_ok h
  · exact View.straight_of_resolve hcanonical
  · exact fun hmem => View.straight_of_resolve hcanonical (List.mem_of_mem_dropLast hmem)

/-- A name of a section is no path from the root. -/
theorem IsRelativeName.isAbsolute_ofText {text : String} (h : IsRelativeName text) :
    (Path.ofText text).isAbsolute = false := by
  have hhead := h.2
  have hanchor : Path.anchorOf text.toList = .here := by
    unfold Path.anchorOf
    split <;> simp_all
  simp only [Path.isAbsolute, Path.ofText, hanchor, ne_eq, not_true_eq_false, decide_false]

namespace ProjectLayout

variable {l : ProjectLayout}

theorem resolve_eq_ok (h : resolve v env path s = .ok l) : ∃ launcher,
    BuildLauncher.launcherDir v env path = .ok launcher ∧ l = around launcher s := by
  obtain ⟨launcher, hlauncher, rfl⟩ := map_eq_ok h
  exact ⟨launcher, hlauncher, rfl⟩

theorem isAbsolute_projectsDir (h : resolve v env path s = .ok l) :
    l.projectsDir.isAbsolute = true := by
  obtain ⟨launcher, hlauncher, rfl⟩ := resolve_eq_ok h
  have hlaunches : launcher.isAbsolute = true := isAbsolute_launcherDir hlauncher
  exact hlaunches

/-- There is no pair of points on the way to the projects directory. -/
theorem collapse_projectsDir (h : resolve v env path s = .ok l) :
    l.projectsDir.collapse = l.projectsDir := by
  obtain ⟨launcher, hlauncher, rfl⟩ := resolve_eq_ok h
  have hstraight := straight_launcherDir hlauncher
  refine View.collapse_of_straight fun hmem => hstraight ?_
  exact List.mem_of_mem_dropLast (List.mem_of_mem_dropLast hmem)

theorem isAbsolute_targetDir (h : resolve v env path s = .ok l) : l.targetDir.isAbsolute = true := by
  have hprojects := isAbsolute_projectsDir h
  obtain ⟨launcher, -, rfl⟩ := resolve_eq_ok h
  exact Path.isAbsolute_join hprojects

/-- What is seen from the projects directory lies inside it exactly if it leads below it. -/
theorem inside_projectsDir_iff (h : resolve v env path s = .ok l) (q : Path) :
    (l.projectsDir.join q).Inside l.projectsDir ↔ Path.LeadsBelow l.projectsDir q := by
  have hjoin := Path.inside_join_iff (q := q) (isAbsolute_projectsDir h)
  rwa [collapse_projectsDir h] at hjoin

/-- Where all names go down without climbing, every part of a layout lies where it should. -/
theorem inside_of_goesDown (h : resolve v env path s = .ok l)
    (htarget : (Path.ofText s.target).GoesDown) (hsubdir : (Path.ofText s.targetSubdir).GoesDown)
    (hreadonly : ∀ name ∈ s.readonly, (Path.ofText name).GoesDown) :
    l.targetDir.Inside l.projectsDir ∧ l.outputDir.Inside l.targetDir ∧
      ∀ dependency ∈ l.readonlyDirs, dependency.Inside l.projectsDir := by
  have hinside {name : String} (hname : (Path.ofText name).GoesDown) :=
    (inside_projectsDir_iff h (Path.ofText name)).mpr (hname.leadsBelow _)
  have houtput := (Path.inside_join_iff (isAbsolute_targetDir h)).mpr (hsubdir.leadsBelow _)
  obtain ⟨launcher, -, rfl⟩ := resolve_eq_ok h
  refine ⟨hinside htarget, houtput, fun dependency hdependency => ?_⟩
  obtain ⟨name, hname, rfl⟩ := List.mem_map.mp hdependency
  exact hinside (hreadonly name hname)

/-- Of a valid layout, the target lies strictly below the projects directory, its output strictly
below the target and every checkout to read strictly below the projects directory exactly if the
names for them lead there. Names that go down without climbing do. Only those checkouts are shown for
reading, each at its own path. The names for the target and its output start at no root. -/
theorem resolve_contained (h : resolve v env path s = .ok l) (volume : String) :
    (l.targetDir.Inside l.projectsDir ↔
      Path.LeadsBelow l.projectsDir (Path.ofText s.target)) ∧
    (l.outputDir.Inside l.targetDir ↔
      Path.LeadsBelow l.targetDir.collapse (Path.ofText s.targetSubdir)) ∧
    ((∀ dependency ∈ l.readonlyDirs, dependency.Inside l.projectsDir) ↔
      ∀ name ∈ s.readonly, Path.LeadsBelow l.projectsDir (Path.ofText name)) ∧
    ((Path.ofText s.target).GoesDown → (Path.ofText s.targetSubdir).GoesDown →
      (∀ name ∈ s.readonly, (Path.ofText name).GoesDown) →
        l.targetDir.Inside l.projectsDir ∧ l.outputDir.Inside l.targetDir ∧
          ∀ dependency ∈ l.readonlyDirs, dependency.Inside l.projectsDir) ∧
    (∀ m ∈ Mount.forLayout l volume, m.mode = .readOnly →
      ∃ dependency ∈ l.readonlyDirs, m.source = dependency.text ∧
        m.destination = dependency.text) ∧
    (Path.ofText s.target).isAbsolute = false ∧ (Path.ofText s.targetSubdir).isAbsolute = false := by
  have hinside (name : String) := inside_projectsDir_iff h (Path.ofText name)
  have htarget := isAbsolute_targetDir h
  have hdown := inside_of_goesDown h
  obtain ⟨launcher, -, rfl⟩ := resolve_eq_ok h
  refine ⟨hinside s.target, Path.inside_join_iff htarget, ?_, hdown, ?_,
    s.target_relative.isAbsolute_ofText, s.targetSubdir_relative.isAbsolute_ofText⟩
  · simp only [around, List.forall_mem_map]
    exact forall₂_congr fun name _ => hinside name
  · intro m hm hmode
    simp only [Mount.forLayout, List.mem_append, List.mem_cons, List.mem_map] at hm
    obtain (rfl | rfl | rfl | hnone) | ⟨dependency, hdependency, rfl⟩ := hm
    · contradiction
    · contradiction
    · contradiction
    · contradiction
    · exact ⟨dependency, hdependency, rfl, rfl⟩

/-- A file tree without entries, seen from the root. -/
def bareView : View := ⟨Tree.empty, some []⟩

/-- A section whose names climb no further than they come back. -/
def nestedSection : LayoutSection :=
  .ofParts ⟨"node/../reth", by decide⟩ ["alloy", "../p/deps/revm"] ⟨"./target", by decide⟩

theorem resolve_contained_nested : ∃ l,
    resolve bareView [] (Path.ofText "/home/p/reth/.dev") nestedSection = .ok l ∧
      l.targetDir.Inside l.projectsDir ∧ l.outputDir.Inside l.targetDir ∧
      ∀ dependency ∈ l.readonlyDirs, dependency.Inside l.projectsDir := by
  have hresolve : resolve bareView [] (Path.ofText "/home/p/reth/.dev") nestedSection =
      .ok (around (Path.ofText "/home/p/reth/.dev") nestedSection) := by
    decide +kernel
  obtain ⟨htarget, houtput, hreadonly, -⟩ := resolve_contained hresolve ""
  exact ⟨_, hresolve, htarget.mpr (by decide +kernel), houtput.mpr (by decide +kernel),
    hreadonly.mpr (by decide +kernel)⟩

/-- A section whose names lead elsewhere. -/
def strayingSection : LayoutSection :=
  .ofParts ⟨"..", by decide⟩ ["/srv/deps", ""] ⟨".", by decide⟩

/-- A valid section may place the target above the projects directory and its output at the target,
and show a directory from elsewhere and all of the projects directory. -/
theorem resolve_outside : ∃ l,
    LayoutSection.ofFields [("target", .text ".."), ("readonly", .list [.text "/srv/deps", .text ""]),
      ("target_subdir", .text ".")] = .valid strayingSection ∧
    resolve bareView [] (Path.ofText "/home/p/reth/.dev") strayingSection = .ok l ∧
    ¬l.targetDir.Inside l.projectsDir ∧ ¬l.outputDir.Inside l.targetDir ∧
    ⟨"/srv/deps", "/srv/deps", .readOnly⟩ ∈ Mount.forLayout l "" ∧
    ⟨l.projectsDir.text, l.projectsDir.text, .readOnly⟩ ∈ Mount.forLayout l "" := by
  refine ⟨around (Path.ofText "/home/p/reth/.dev") strayingSection, rfl, ?_⟩
  decide +kernel

end ProjectLayout
end BuildLauncher

import BuildLauncher.Proofs.Settings.Selection

/-!
# Names of variables in other letters

Variables for settings may be spelled in upper or lower case. The settings are the same for all
spellings (`assemble_respelled`), but for one name: a launcher directory with a Dockerfile gives way to
the variable for another one only if that variable is spelled in capitals throughout.
-/
namespace BuildLauncher

open Checking Files

namespace Environment

/-- The names in lower case of the variables that may be spelled in any case of letters. -/
def anyCase (name : String) : Bool :=
  name ∈ ["builder_image", "target_dir_volume", "docker"] ||
    variableStart.toList.isPrefixOf name.toList && name != "reth_build_config"

/-- One variable in two environments: its value is the same, and so is its name, up to the case of
letters where that may differ. -/
structure Respells (entry other : String × String) : Prop where
  value : entry.2 = other.2
  lower : Text.lower entry.1 = Text.lower other.1
  name : anyCase (Text.lower entry.1) = false → entry.1 = other.1

instance (entry other : String × String) : Decidable (Respells entry other) :=
  decidable_of_iff (entry.2 = other.2 ∧ Text.lower entry.1 = Text.lower other.1 ∧
      (anyCase (Text.lower entry.1) = false → entry.1 = other.1))
    ⟨fun ⟨value, lower, name⟩ => ⟨value, lower, name⟩, fun h => ⟨h.value, h.lower, h.name⟩⟩

/-- Two environments with the same variables in the same order, in other letters. -/
abbrev Respelled (env other : Environment) : Prop := List.Forall₂ Respells env other

variable {env other : Environment} {name : String}

theorem Respelled.folded_eq (h : Respelled env other) : env.folded = other.folded := by
  have hpairs : (env.filter (·.2 ≠ "")).map (fun entry => (Text.lower entry.1, entry.2)) =
      (other.filter (·.2 ≠ "")).map (fun entry => (Text.lower entry.1, entry.2)) := by
    induction h with
    | nil => rfl
    | cons hentry _ ih =>
      simp only [List.filter_cons, hentry.value]
      split
      · rw [List.map_cons, List.map_cons, ih, hentry.lower, hentry.value]
      · exact ih
  exact congrArg (List.foldl folded.set []) hpairs

/-- A variable whose name cannot be spelled otherwise is the same in both environments. -/
theorem Respelled.get?_eq (h : Respelled env other) (hname : anyCase (Text.lower name) = false) :
    env.get? name = other.get? name := by
  induction h with
  | nil => rfl
  | @cons entry entry' _ _ hentry _ ih =>
    -- The two entries have this name both or neither: it is spelled in one way only.
    have hiff : name = entry.1 ↔ name = entry'.1 := by
      constructor
      · rintro rfl
        exact hentry.name hname
      · rintro rfl
        exact (hentry.name (hentry.lower ▸ hname)).symm
    simp only [get?] at ih ⊢
    rw [lookup_entry, lookup_entry, ih, hentry.value]
    simp only [hiff]

end Environment

namespace Settings

open Environment

variable {v : View} {env other : Environment} {request : SettingsRequest} {config : Option Path}

theorem environmentFields_respelled (h : Respelled env other) :
    environmentFields env = environmentFields other := by
  rw [environmentFields, environmentFields, h.folded_eq]

theorem chooseConfig_respelled (h : Respelled env other) :
    chooseConfig v env request = chooseConfig v other request := by
  have hvariable : env.nonEmpty? configVariable = other.nonEmpty? configVariable :=
    congrArg _ (h.get?_eq (by decide +kernel))
  simp only [chooseConfig, findConfig, hvariable]

theorem baseDirOf_respelled (h : Respelled env other) (arguments merged : Fields)
    (chosen : Option Path) :
    baseDirOf v env arguments chosen merged = baseDirOf v other arguments chosen merged := by
  have hhome : env.get? "HOME" = other.get? "HOME" := h.get?_eq (by decide +kernel)
  simp only [baseDirOf, checkBaseDir, launcherDir, hhome]

/-- The spelling of the variable for the launcher directory does not matter: the directory is given
otherwise, or no other one is in view, or both environments spell it alike. -/
inductive SettlesDirectory (v : View) (env other : Environment) (request : SettingsRequest) : Prop
  | asked (asked : request.baseDir.isSome = true)
  | beside {file : Path} (found : chooseConfig v env request = .ok (some file))
  | alike (alike : (env.nonEmpty? baseDirVariable).isSome = (other.nonEmpty? baseDirVariable).isSome)
  | nowhere (nowhere : findLauncherDir v none = .ok none)

theorem chooseBaseDir_respelled (h : SettlesDirectory v env other request)
    (hconfig : chooseConfig v env request = .ok config) :
    chooseBaseDir v env request config = chooseBaseDir v other request config := by
  unfold chooseBaseDir
  cases hasked : request.baseDir with
  | some text => rfl
  | none =>
    cases config with
    | some file => rfl
    | none =>
      cases h with
      | asked asked => simp [hasked] at asked
      | beside found => simp [hconfig] at found
      | alike alike => simp only [alike]
      | nowhere nowhere => simp only [nowhere, ite_self]

/-- Variables in other letters give the same settings, or the same failure, where the launcher
directory does not hang on the letters of its variable. -/
theorem assemble_respelled (h : Respelled env other)
    (hdirectory : SettlesDirectory v env other request) :
    assemble v env request = assemble v other request := by
  refine assemble_congr (chooseConfig_respelled h)
    (fun config hconfig => chooseBaseDir_respelled hdirectory hconfig) ?_
  intro config chosen choice choice'
  rw [assemble_eq_of_chosen choice, assemble_eq_of_chosen choice', environmentFields_respelled h]
  exact bind_congr fun document => bind_congr fun environment => bind_congr fun _ =>
    congrArg (· >>= _) (baseDirOf_respelled h _ _ _)

/-- A checkout whose own launcher directory is in view, and another directory. -/
def checkoutView : View :=
  ⟨⟨[(["w"], .directory), (["w", ".dev"], .directory), (["w", ".dev", "Dockerfile"], .file []),
    (["w", "other"], .directory)]⟩, some ["w"]⟩

theorem assemble_respelled_mixed :
    assemble checkoutView [("HOME", "/w"), ("BUILDER_IMAGE", "x"),
        ("RETH_BUILD_BASE_DIR", "/w/other"), ("RETH_BUILD_LAYOUT__TARGET", "own")]
        ⟨none, none, []⟩ =
      assemble checkoutView [("HOME", "/w"), ("Builder_Image", "x"),
        ("RETH_BUILD_BASE_DIR", "/w/other"), ("reth_build_Layout__target", "own")]
        ⟨none, none, []⟩ :=
  assemble_respelled (by decide +kernel) (.alike (by decide +kernel))

/-- In capitals the variable comes before the launcher directory in view, in lower case after it. -/
theorem assemble_lowerCase_baseDir :
    Respelled [("RETH_BUILD_BASE_DIR", "/w/other")] [("reth_build_base_dir", "/w/other")] ∧
      (assemble checkoutView [("RETH_BUILD_BASE_DIR", "/w/other")] ⟨none, none, []⟩).toOption.map
        (·.baseDir.text) = some "/w/other" ∧
      (assemble checkoutView [("reth_build_base_dir", "/w/other")] ⟨none, none, []⟩).toOption.map
        (·.baseDir.text) = some "/w/.dev" := by
  decide +kernel

end Settings
end BuildLauncher

import BuildLauncher.Proofs.Settings.Merging
import BuildLauncher.Settings.Sections

/-!
# Valid inputs

A whole is valid if and only if all its parts are. A part with a default is valid if what is given
for it is, or if nothing is given.
-/
namespace BuildLauncher

namespace Checking

section Validity

variable {α β : Type}

theorem map_eq_valid {f : α → β} {c : Checked α} {b : β} :
    (f <$> c) = .valid b ↔ ∃ a, c = .valid a ∧ f a = b := by
  cases c with
  | valid a => exact (Checked.valid.injEq ..).to_iff.trans (by simp)
  | invalid issues => exact ⟨nofun, by simp⟩

theorem seq_eq_valid {f : Checked (α → β)} {c : Checked α} {b : β} :
    (f <*> c) = .valid b ↔ ∃ g, f = .valid g ∧ ∃ a, c = .valid a ∧ g a = b := by
  cases f with
  | invalid issues => cases c <;> exact ⟨nofun, by simp⟩
  | valid g =>
    cases c with
    | valid a => exact (Checked.valid.injEq ..).to_iff.trans (by simp)
    | invalid more => exact ⟨nofun, by simp⟩

theorem seqLeft_eq_valid {c : Checked α} {d : Checked β} {a : α} :
    (c <* d) = .valid a ↔ c = .valid a ∧ ∃ b, d = .valid b := by
  cases c with
  | invalid issues => cases d <;> exact ⟨nofun, by simp⟩
  | valid x =>
    cases d with
    | valid y => exact (Checked.valid.injEq ..).to_iff.trans (by simp)
    | invalid more => exact ⟨nofun, by simp⟩

/-- What is made of a whole can be made where its last part comes in. -/
theorem map_seq {γ : Type} (g : β → γ) (f : Checked (α → β)) (c : Checked α) :
    g <$> (f <*> c) = (g ∘ ·) <$> f <*> c := by
  cases f <;> cases c <;> rfl

theorem map_seqLeft {γ : Type} (g : α → γ) (c : Checked α) (d : Checked β) :
    g <$> (c <* d) = g <$> c <* d := by
  cases c <;> cases d <;> rfl

theorem under_eq_valid {step : Step} {c : Checked α} {a : α} :
    c.under step = .valid a ↔ c = .valid a := by
  cases c <;> simp [Checked.under]

theorem andThen_eq_valid {c : Checked α} {f : α → Checked β} {b : β} :
    c.andThen f = .valid b ↔ ∃ a, c = .valid a ∧ f a = .valid b := by
  cases c <;> simp [Checked.andThen]

end Validity

section Given

variable {α : Type} {check : Value → Checked α} {default a : α} {fields : Fields} {name : String}

/-- The value that comes of what is given, or of the default where nothing is. -/
def Gives (check : Value → Checked α) (default : α) (given : Option Value) (a : α) : Prop :=
  given.elim (.valid default) check = .valid a

theorem field_eq_valid :
    field fields name default check = .valid a ↔ Gives check default (fields.get? name) a := by
  unfold field Gives
  cases fields.get? name with
  | none => rfl
  | some v => exact under_eq_valid

/-- A check that refuses objects accepts only what was given. -/
theorem Gives.of_orObject {given found : Option Value} (h : Gives check default found a)
    (hgiven : OrObject given found) (hcheck : ∀ own b, check (.object own) ≠ .valid b) :
    Gives check default given a := by
  rcases hgiven with rfl | ⟨own, rfl⟩
  · exact h
  · exact absurd h (hcheck own a)

theorem asText_object (own : Fields) (b : String) : asText (.object own) ≠ .valid b := nofun

theorem asBool_object (own : Fields) (b : Bool) : asBool (.object own) ≠ .valid b := nofun

theorem asTexts_object (own : Fields) (b : List String) : asTexts (.object own) ≠ .valid b := nofun

theorem asRelativeName_object (own : Fields) (b : { s : String // IsRelativeName s }) :
    asRelativeName (.object own) ≠ .valid b := nofun

theorem asModel_eq_valid {model : String} {v : Value} {own : Fields} :
    asModel model v = .valid own ↔ v = .object own := by
  cases v <;> simp [asModel, Checked.fault]

/-- A section is made from its own fields, or without any from the defaults. -/
theorem Gives.section {σ : Type} {ofFields : Fields → Checked σ} {default s : σ} {model : String}
    {found : Option Value} (hdefault : ofFields [] = .valid default)
    (h : Gives (fun v => (asModel model v).andThen ofFields) default found s) :
    (∀ v, found = some v → ∃ own, v = .object own) ∧
      ∃ own, ofFields own = .valid s ∧ ∀ key, own.get? key = within found key := by
  cases found with
  | none => exact ⟨nofun, [], hdefault.trans h, fun _ => rfl⟩
  | some v =>
    obtain ⟨own, hown, hs⟩ := andThen_eq_valid.mp h
    obtain rfl := asModel_eq_valid.mp hown
    refine ⟨?_, own, hs, fun _ => rfl⟩
    rintro _ ⟨⟩
    exact ⟨own, rfl⟩

end Given

end Checking

open Checking

theorem LayoutSection.ofFields_eq_valid {fields : Fields} {s : LayoutSection} :
    ofFields fields = .valid s ↔
      Gives asRelativeName ⟨"reth", by decide⟩ (fields.get? "target") ⟨s.target, s.target_relative⟩ ∧
      Gives asTexts ["alloy"] (fields.get? "readonly") s.readonly ∧
      Gives asRelativeName ⟨"target", by decide⟩ (fields.get? "target_subdir")
        ⟨s.targetSubdir, s.targetSubdir_relative⟩ := by
  simp only [ofFields, seq_eq_valid, map_eq_valid, field_eq_valid]
  constructor
  · rintro ⟨_, ⟨_, ⟨target, htarget, rfl⟩, readonly, hreadonly, rfl⟩, subdir, hsubdir, rfl⟩
    exact ⟨htarget, hreadonly, hsubdir⟩
  · rintro ⟨htarget, hreadonly, hsubdir⟩
    exact ⟨_, ⟨_, ⟨_, htarget, rfl⟩, _, hreadonly, rfl⟩, _, hsubdir, rfl⟩

theorem RunnerSection.ofFields_eq_valid {fields : Fields} {s : RunnerSection} :
    ofFields fields = .valid s ↔
      Gives asText "in-docker" (fields.get? "command") s.command ∧
      Gives asText "build-reth" (fields.get? "name") s.name := by
  simp only [ofFields, seq_eq_valid, map_eq_valid, field_eq_valid]
  constructor
  · rintro ⟨_, ⟨command, hcommand, rfl⟩, name, hname, rfl⟩
    exact ⟨hcommand, hname⟩
  · rintro ⟨hcommand, hname⟩
    exact ⟨_, ⟨_, hcommand, rfl⟩, _, hname, rfl⟩

end BuildLauncher

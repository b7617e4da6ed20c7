import BuildLauncher.Proofs.Launch.Containment
import BuildLauncher.Proofs.Report.Rendering

/-!
# The table of mounts

A mount is one text for the engine, its three parts joined by colons, and the table of mounts divides
that text at its last two colons. The parts come back exactly where the destination has no colon, and
among such mounts no two have the same text (`forLayout_divided`).
-/
namespace BuildLauncher

open Files

namespace Mount

open Report

variable {m n : Mount}

/-- The parts of a mount as the table shows them. -/
def parts (m : Mount) : List String := [m.source, m.destination, m.mode.text]

theorem splitMount_eq_parts :
    splitMount (.text m.spec) = .ok m.parts ↔ ':' ∉ m.destination.toList := by
  refine ⟨fun h hcolon => ?_, fun h => splitMount_joined h m.mode⟩
  obtain ⟨before, last, hdestination, hlast⟩ := exists_after_last_colon hcolon
  have hspec : m.spec = m.source ++ ":" ++ before ++ ":" ++ last ++ ":" ++ m.mode.text := by
    simp [spec, hdestination, String.append_assoc]
  rw [hspec, splitMount_joined hlast] at h
  -- What is shown as the destination has no colon, where the destination has one.
  have hshown : last = m.destination := by
    simpa [parts] using congrArg (·.map fun shown => shown.getD 1 "") h
  exact hlast (hshown ▸ hcolon)

theorem mapM_splitMount_eq_parts (mounts : List Mount) :
    (mounts.map fun m => .text m.spec).mapM splitMount = .ok (mounts.map parts) ↔
      ∀ m ∈ mounts, ':' ∉ m.destination.toList := by
  induction mounts with
  | nil => simp [pure, Except.pure]
  | cons m rest ih =>
    obtain ⟨source, destination, mode, hsplit, -⟩ := splitMount_spec m
    have hfirst := splitMount_eq_parts (m := m)
    rw [hsplit, Except.ok.injEq] at hfirst
    rw [List.map_cons, List.mapM_cons, hsplit, ok_bind, List.forall_mem_cons, ← hfirst, ← ih,
      List.map_cons]
    cases (rest.map fun m => Value.text m.spec).mapM splitMount with
    | error e => simp
    | ok shown => simp [pure, Except.pure]

/-- Mounts with the same text are of the same mode. -/
theorem mode_eq_of_spec_eq (h : m.spec = n.spec) : m.mode = n.mode := by
  have hlast (m : Mount) : m.spec.toList.getLast? = m.mode.text.toList.getLast? := by
    have htext : m.mode.text.toList ≠ [] := by
      cases m.mode <;> decide
    rw [spec, String.toList_append, List.getLast?_append_of_ne_nil _ htext]
  have hsame : m.mode.text.toList.getLast? = n.mode.text.toList.getLast? := by
    rw [← hlast, ← hlast, h]
  cases hm : m.mode <;> cases hn : n.mode <;> simp_all [MountMode.text]

/-- Of mounts that the table shows as they are, no two have the same text. -/
theorem eq_of_spec_eq (h : m.spec = n.spec) (hm : ':' ∉ m.destination.toList)
    (hn : ':' ∉ n.destination.toList) : m = n := by
  have hmode := mode_eq_of_spec_eq h
  have hparts : m.parts = n.parts := by
    have hsplit := splitMount_eq_parts.mpr hm
    rw [h, splitMount_eq_parts.mpr hn] at hsplit
    exact (Except.ok.inj hsplit).symm
  obtain ⟨hsource, hdestination, -⟩ : m.source = n.source ∧ m.destination = n.destination ∧ True := by
    simpa [parts, hmode] using hparts
  cases m
  cases n
  simp_all

/-- A path that is mounted at itself can be told from the text, whatever its names. -/
theorem eq_of_spec_eq_of_same (h : m.spec = n.spec) (hm : m.source = m.destination)
    (hn : n.source = n.destination) : m = n := by
  have hmode := mode_eq_of_spec_eq h
  have htexts : m.source.toList ++ ':' :: m.source.toList =
      n.source.toList ++ ':' :: n.source.toList := by
    have hspec : m.source ++ ":" ++ m.source = n.source ++ ":" ++ n.source := by
      simpa [spec, ← hm, ← hn, hmode] using h
    simpa using congrArg String.toList hspec
  have hlength : m.source.toList.length = n.source.toList.length := by
    have htwice := congrArg List.length htexts
    simp only [List.length_append, List.length_cons] at htwice
    omega
  have hsource : m.source = n.source := String.toList_inj.mp (List.append_inj_left htexts hlength)
  cases m
  cases n
  simp_all

section Layouts

variable {l : ProjectLayout} {volume : String}

theorem same_of_readOnly (hm : m ∈ forLayout l volume) (hmode : m.mode = .readOnly) :
    m.source = m.destination := by
  simp only [forLayout, List.mem_append, List.mem_cons, List.mem_map] at hm
  obtain (rfl | rfl | rfl | hnone) | ⟨directory, -, rfl⟩ := hm
  all_goals first | contradiction | rfl

theorem forall_destination_forLayout :
    (∀ m ∈ forLayout l volume, ':' ∉ m.destination.toList) ↔
      ':' ∉ l.outputDir.text.toList ∧ ∀ directory ∈ l.readonlyDirs, ':' ∉ directory.text.toList := by
  simp [forLayout]

/-- Of all mounts of a layout, the table shows those as they are whose destination has no colon. It
shows all of them so exactly if neither the output nor a checkout to read has one in its path. Two
mounts with the same text have the same mode, and they are one mount if they are read-only or the
table shows both as they are. -/
theorem forLayout_divided (l : ProjectLayout) (volume : String) :
    (∀ m ∈ forLayout l volume,
      (splitMount (.text m.spec) = .ok [m.source, m.destination, m.mode.text] ↔
        ':' ∉ m.destination.toList)) ∧
    (((forLayout l volume).map fun m => .text m.spec).mapM splitMount =
        .ok ((forLayout l volume).map fun m => [m.source, m.destination, m.mode.text]) ↔
      ':' ∉ l.outputDir.text.toList ∧ ∀ directory ∈ l.readonlyDirs, ':' ∉ directory.text.toList) ∧
    ∀ m ∈ forLayout l volume, ∀ n ∈ forLayout l volume, m.arguments = n.arguments →
      m.mode = n.mode ∧
      (m.mode = .readOnly ∨ ':' ∉ m.destination.toList ∧ ':' ∉ n.destination.toList → m = n) := by
  refine ⟨fun m _ => splitMount_eq_parts,
    (mapM_splitMount_eq_parts _).trans forall_destination_forLayout, ?_⟩
  intro m hm n hn harguments
  have hspec : m.spec = n.spec := by simpa [arguments] using harguments
  have hmode := mode_eq_of_spec_eq hspec
  refine ⟨hmode, ?_⟩
  rintro (hreadOnly | ⟨hmcolon, hncolon⟩)
  · exact eq_of_spec_eq_of_same hspec (same_of_readOnly hm hreadOnly)
      (same_of_readOnly hn (hmode ▸ hreadOnly))
  · exact eq_of_spec_eq hspec hmcolon hncolon

/-- A section with colons in its names. -/
def colonSection : LayoutSection :=
  .ofParts ⟨"b", by decide⟩ ["a:c"] ⟨"cargo-git:/usr/local/cargo/git", by decide⟩

/-- With colons in its names, a checkout is shown under another source and at another destination, and
two mounts have the same text. -/
theorem forLayout_ambiguous : ∃ l,
    LayoutSection.ofFields [("target", .text "b"), ("readonly", .list [.text "a:c"]),
      ("target_subdir", .text "cargo-git:/usr/local/cargo/git")] = .valid colonSection ∧
    ProjectLayout.resolve ProjectLayout.bareView [] (Path.ofText "/a:/b") colonSection = .ok l ∧
    (∃ m ∈ forLayout l "/a", m.source = "/a:c" ∧ m.destination = "/a:c" ∧
      splitMount (.text m.spec) = .ok ["/a:c:/a", "c", "ro"]) ∧
    ∃ m ∈ forLayout l "/a", ∃ n ∈ forLayout l "/a", m ≠ n ∧ m.arguments = n.arguments := by
  refine ⟨.around (Path.ofText "/a:/b") colonSection, rfl, by decide +kernel, ?_, ?_⟩
  · exact ⟨⟨"/a:c", "/a:c", .readOnly⟩, by decide +kernel, rfl, rfl, rfl⟩
  · exact ⟨⟨"/a:/b/cargo-git", "/usr/local/cargo/git", .readWrite⟩, by decide +kernel,
      ⟨"/a", "/b/cargo-git:/usr/local/cargo/git", .readWrite⟩, by decide +kernel, by decide,
      by decide +kernel⟩

end Layouts

end Mount
end BuildLauncher

import BuildLauncher.Proofs.Files.Canonical
import BuildLauncher.Proofs.Files.Directories
import Mathlib.Data.List.Chain
import Mathlib.Logic.Function.Iterate

/-!
# The way up

Going from a path to its parent, and on until a path is its own parent, passes the path and all
above it, each once (`isWayUp_ancestors`). The way from a path ends in the way from every path on it
(`exists_ancestors_append`).
-/
namespace BuildLauncher.Files.Path

/-- The way from a path upwards: after each path comes its parent, and none after a path that is its
own parent. All paths above are on it, each once. -/
structure IsWayUp (r : Path) (way : List Path) : Prop where
  first : way.head? = some r
  climbs : way.IsChain fun p q => q = p.parent ∧ q ≠ p
  ends : ∃ top, way.getLast? = some top ∧ top.parent = top
  once : way.Nodup
  all : ∀ q, q ∈ way ↔ ∃ n, q = parent^[n] r

variable {p q r : Path}

/-- What holds at the top, and of each path if it holds of its parent, holds of all paths. -/
theorem parent_induction {motive : Path → Prop} (top : ∀ p : Path, p.names = [] → motive p)
    (up : ∀ p : Path, p.names ≠ [] → motive p.parent → motive p) (p : Path) : motive p := by
  induction hn : p.names.length generalizing p with
  | zero => exact top p (List.length_eq_zero_iff.mp hn)
  | succ n ih =>
    refine up p (List.ne_nil_of_length_eq_add_one hn) (ih p.parent ?_)
    simp [parent, hn]

theorem parent_of_nil (h : p.names = []) : p.parent = p := ext rfl (by simp [parent, h])

theorem parent_ne (h : p.names ≠ []) : p.parent ≠ p := by
  intro heq
  have hlength := congrArg (fun q : Path => q.names.length) heq
  have hpos := List.length_pos_of_ne_nil h
  simp only [parent, List.length_dropLast] at hlength
  omega

theorem ancestors_of_nil (h : p.names = []) : p.ancestors = [p] := by
  obtain ⟨anchor, names, isName⟩ := p
  obtain rfl : names = [] := h
  rfl

/-- Each path on the way has more names than those after it. -/
theorem pairwise_ancestors (p : Path) :
    p.ancestors.Pairwise fun q r => r.names.length < q.names.length := by
  induction p using parent_induction with
  | top p h =>
    rw [ancestors_of_nil h]
    exact List.pairwise_singleton _ _
  | up p h ih =>
    rw [ancestors_eq_cons h]
    refine List.pairwise_cons.mpr ⟨fun q hq => ?_, ih⟩
    have hlength := (mem_ancestors.mp hq).2.length_le
    have hpos := List.length_pos_of_ne_nil h
    simp only [parent, List.length_dropLast] at hlength
    omega

theorem head?_ancestors (p : Path) : p.ancestors.head? = some p := by
  by_cases h : p.names = []
  · rw [ancestors_of_nil h, List.head?_cons]
  · rw [ancestors_eq_cons h, List.head?_cons]

theorem isChain_ancestors (p : Path) :
    p.ancestors.IsChain fun p q => q = p.parent ∧ q ≠ p := by
  induction p using parent_induction with
  | top p h =>
    rw [ancestors_of_nil h]
    exact .singleton p
  | up p h ih =>
    rw [ancestors_eq_cons h]
    refine ih.cons fun q hq => ?_
    obtain rfl : p.parent = q := Option.some.inj ((head?_ancestors _).symm.trans hq)
    exact ⟨rfl, parent_ne h⟩

/-- The way ends at a path that is its own parent. -/
theorem exists_getLast?_ancestors (p : Path) :
    ∃ top, p.ancestors.getLast? = some top ∧ top.parent = top := by
  induction p using parent_induction with
  | top p h => exact ⟨p, by rw [ancestors_of_nil h, List.getLast?_singleton], parent_of_nil h⟩
  | up p h ih =>
    obtain ⟨top, htop, hends⟩ := ih
    exact ⟨top, by rw [ancestors_eq_cons h, List.getLast?_cons, htop]; rfl, hends⟩

theorem mem_ancestors_iff_iterate : q ∈ p.ancestors ↔ ∃ n, q = parent^[n] p := by
  induction p using parent_induction with
  | top p h =>
    have hfixed (n : ℕ) : parent^[n] p = p := Function.iterate_fixed (parent_of_nil h) n
    simp [ancestors_of_nil h, hfixed]
  | up p h ih =>
    rw [ancestors_eq_cons h, List.mem_cons, ih]
    constructor
    · rintro (rfl | ⟨n, rfl⟩)
      · exact ⟨0, rfl⟩
      · exact ⟨n + 1, rfl⟩
    · rintro ⟨n, rfl⟩
      cases n with
      | zero => exact .inl rfl
      | succ n => exact .inr ⟨n, rfl⟩

theorem isWayUp_ancestors (p : Path) : p.IsWayUp p.ancestors where
  first := head?_ancestors p
  climbs := isChain_ancestors p
  ends := exists_getLast?_ancestors p
  once := (pairwise_ancestors p).imp fun hlt heq => (heq ▸ hlt).false
  all _ := mem_ancestors_iff_iterate

/-- From each path on it the way goes on as the way from there. -/
theorem exists_ancestors_append (h : r ∈ p.ancestors) :
    ∃ below, p.ancestors = below ++ r.ancestors ∧ ∀ q ∈ below, q ∉ r.ancestors := by
  induction p using parent_induction with
  | top p htop =>
    rw [ancestors_of_nil htop] at h
    obtain rfl := List.mem_singleton.mp h
    exact ⟨[], rfl, nofun⟩
  | up p hne ih =>
    by_cases heq : r = p
    · exact ⟨[], by rw [heq, List.nil_append], nofun⟩
    · rw [ancestors_eq_cons hne, List.mem_cons, or_iff_right heq] at h
      obtain ⟨below, hbelow, hnot⟩ := ih h
      refine ⟨p :: below, by rw [ancestors_eq_cons hne, hbelow, List.cons_append],
        List.forall_mem_cons.mpr ⟨fun hp => ?_, hnot⟩⟩
      have habove := (mem_ancestors.mp hp).2.length_le.trans (mem_ancestors.mp h).2.length_le
      have hpos := List.length_pos_of_ne_nil hne
      simp only [parent, List.length_dropLast] at habove
      omega

end BuildLauncher.Files.Path

import BuildLauncher.Proofs.Files.Growth

/-!
# Making directories

An attempt at a directory adds directories at the path and at missing paths above it, and nothing
else; what it has added stays if it fails. Once it succeeds there is a directory at the path, now
and after any further attempt.
-/
namespace BuildLauncher.Files

theorem Path.mem_ancestors {p q : Path} :
    q ∈ p.ancestors ↔ q.anchor = p.anchor ∧ q.names <+: p.names := by
  simp only [ancestors, List.mem_map, List.mem_range]
  constructor
  · rintro ⟨n, -, rfl⟩
    exact ⟨rfl, List.take_prefix _ _⟩
  · rintro ⟨ha, hp⟩
    have hlen := hp.length_le
    refine ⟨p.names.length - q.names.length, by omega, Path.ext ha.symm ?_⟩
    simp only [Nat.sub_sub_self hlen]
    exact (List.prefix_iff_eq_take.mp hp).symm

theorem Path.ancestors_parent_subset (p : Path) : p.parent.ancestors ⊆ p.ancestors := by
  intro q hq
  obtain ⟨ha, hp⟩ := mem_ancestors.mp hq
  exact mem_ancestors.mpr ⟨ha, hp.trans (List.dropLast_prefix _)⟩

namespace View

variable {v w x : View} {path : Path} {paths more : List Path}

theorem isDirectory_iff : v.isDirectory path = .ok true ↔
    hasNul path.text = false ∧ ∃ location, v.node? path.text = .ok (location, .directory) := by
  unfold isDirectory test
  cases hasNul path.text with
  | true => simp
  | false =>
    cases hnode : v.node? path.text with
    | error fault => cases fault <;> simp
    | ok found =>
      obtain ⟨location, node⟩ := found
      cases node <;> simp [Node.isDirectory]

theorem ExtendedBy.isDirectory (h : v.ExtendedBy w) (hd : v.isDirectory path = .ok true) :
    w.isDirectory path = .ok true := by
  obtain ⟨hnul, location, hnode⟩ := isDirectory_iff.mp hd
  refine isDirectory_iff.mpr ⟨hnul, location, ?_⟩
  rw [node?_mono h _ (by simp [hnode]), hnode]

/-- `w` is `v` with directories for some of the paths, where these led nowhere. -/
structure GrownBy (v : View) (paths : List Path) (w : View) : Prop extends v.ExtendedBy w where
  made : ∀ location node, v.tree.get? location = none → w.tree.get? location = some node →
    node = .directory ∧ ∃ path ∈ paths, v.node? path.text = .error .notFound ∧
      w.node? path.text = .ok (location, .directory)

theorem GrownBy.refl (v : View) (paths : List Path) : v.GrownBy paths v where
  toExtendedBy := .refl v
  made location node hn hs := by
    rw [hn] at hs
    contradiction

theorem GrownBy.mono (h : v.GrownBy paths w) (hs : paths ⊆ more) : v.GrownBy more w where
  toExtendedBy := h.toExtendedBy
  made location node hn hnode := by
    obtain ⟨hd, path, hp, hrest⟩ := h.made location node hn hnode
    exact ⟨hd, path, hs hp, hrest⟩

theorem GrownBy.trans (hvw : v.GrownBy paths w) (hwx : w.GrownBy paths x) :
    v.GrownBy paths x where
  toExtendedBy := hvw.toExtendedBy.trans hwx.toExtendedBy
  made location node hn hnode := by
    cases hw : w.tree.get? location with
    | some made =>
      obtain ⟨rfl, path, hp, hv, hfound⟩ := hvw.made location made hn hw
      have hx := hwx.tree location _ hw
      rw [hnode] at hx
      refine ⟨Option.some.inj hx, path, hp, hv, ?_⟩
      rw [node?_mono hwx.toExtendedBy _ (by simp [hfound]), hfound]
    | none =>
      obtain ⟨hd, path, hp, hfound, hx⟩ := hwx.made location node hw hnode
      refine ⟨hd, path, hp, ?_, hx⟩
      by_contra hv
      exact hv (node?_mono hvw.toExtendedBy _ hv ▸ hfound)

/-- A directory that was made stands where its path now leads. -/
theorem makeDirectory_ok (h : v.makeDirectory path = .ok w) :
    v.GrownBy [path] w ∧ ∃ location, w.node? path.text = .ok (location, .directory) := by
  unfold makeDirectory at h
  split at h <;> try contradiction
  rename_i place hfind
  obtain rfl := Except.ok.inj h
  obtain ⟨hne, hn, -⟩ := find_vacant (.refl v) _ hfind
  have hext : v.ExtendedBy { v with tree := v.tree.insert place .directory } :=
    ⟨Tree.extendedBy_insert hne hn _, rfl⟩
  have hget := Tree.get?_insert v.tree hne .directory
  have hbefore : v.node? path.text = .error .notFound := by
    obtain ⟨-, -, hd⟩ := find_vacant (.refl v) _ hfind
    simp [node?, hd (by simp [hn]), Tree.placeAt, hn]
  have hafter : View.node? { v with tree := v.tree.insert place .directory } path.text =
      .ok (place, .directory) := by
    obtain ⟨-, -, hd⟩ := find_vacant hext _ hfind
    simp [node?, hd (by simp [hget]), Tree.placeAt, hget]
  refine ⟨⟨hext, fun location node hv hnode => ?_⟩, place, hafter⟩
  rw [hget] at hnode
  split at hnode
  · rename_i heq
    subst heq
    exact ⟨(Option.some.inj hnode).symm, path, by simp, hbefore, hafter⟩
  · rw [hv] at hnode
    contradiction

/-- What an attempt at a directory may leave behind: some of the paths have become directories, and
the attempt's own one is a directory if it succeeds. -/
structure Attempted (v : View) (paths : List Path) (path : Path) (a : Attempt) : Prop where
  grown : v.GrownBy paths a.2
  isDirectory : a.1 = .ok () → a.2.isDirectory path = .ok true

theorem forgive_attempted (v : View) (fault : Fault) (path : Path) :
    v.Attempted [path] path (v.forgive fault path) := by
  unfold forgive
  split
  · exact ⟨.refl v _, by simp⟩
  · rename_i hd
    exact ⟨.refl v _, fun _ => hd⟩
  · exact ⟨.refl v _, by simp⟩

theorem makeDirectory_attempted (hnul : hasNul path.text = false)
    (h : v.makeDirectory path = .ok w) : v.Attempted [path] path (.ok (), w) := by
  obtain ⟨hg, hnode⟩ := makeDirectory_ok h
  exact ⟨hg, fun _ => isDirectory_iff.mpr ⟨hnul, hnode⟩⟩

theorem ensureChild_attempted (hnul : hasNul path.text = false) :
    v.Attempted [path] path (v.ensureChild path) := by
  unfold ensureChild
  split
  · rename_i w hmake
    exact makeDirectory_attempted hnul hmake
  · exact ⟨.refl v _, by simp⟩
  · exact forgive_attempted v _ path

theorem Attempted.mono {a : Attempt} (h : v.Attempted paths path a) (hs : paths ⊆ more) :
    v.Attempted more path a := ⟨h.grown.mono hs, h.isDirectory⟩

theorem Attempted.trans {first second : Path} {a : Attempt}
    (h : v.Attempted paths first (.ok (), w)) (ha : w.Attempted paths second a) :
    v.Attempted paths second a := ⟨h.grown.trans ha.grown, ha.isDirectory⟩

/-- Along the depth: the parents are attempted first, and their paths are above the path too. -/
theorem ensureDirectoryFrom_attempted (v : View) (depth : Nat) (path : Path) :
    v.Attempted path.ancestors path (v.ensureDirectoryFrom depth path) := by
  have hself (p : Path) : [p] ⊆ p.ancestors := by
    simpa using Path.mem_ancestors.mpr ⟨rfl, List.prefix_rfl⟩
  fun_induction ensureDirectoryFrom v depth path with
  | case1 => exact ⟨.refl v _, by simp⟩
  | case2 depth path hnul w hmake =>
    exact (makeDirectory_attempted (by simpa using hnul) hmake).mono (hself path)
  | case3 => exact ⟨.refl v _, by simp⟩
  | case4 path hnul hmake depth w hparent ih =>
    rw [hparent] at ih
    have hchild : w.Attempted [path] path (w.ensureChild path) :=
      ensureChild_attempted (by simpa using hnul)
    exact (ih.mono path.ancestors_parent_subset).trans (hchild.mono (hself path))
  | case5 path hnul hmake depth hparent ih =>
    refine ⟨ih.grown.mono path.ancestors_parent_subset, fun hok => ?_⟩
    exact (hparent _ (Prod.ext hok rfl)).elim
  | case6 depth path hnul fault hfault hmake =>
    exact (forgive_attempted v fault path).mono (hself path)

theorem ensureDirectory_attempted (v : View) (path : Path) :
    v.Attempted path.ancestors path (v.ensureDirectory path) :=
  ensureDirectoryFrom_attempted v _ path

/-- Attempts at one directory after the other, up to the first that fails. -/
def ensureDirectories (v : View) : List Path → Attempt
  | [] => (.ok (), v)
  | path :: rest =>
    match v.ensureDirectory path with
    | (.ok (), w) => w.ensureDirectories rest
    | failed => failed

theorem ensureDirectories_grown (v : View) (paths : List Path) :
    v.GrownBy (paths.flatMap Path.ancestors) (v.ensureDirectories paths).2 := by
  induction paths generalizing v with
  | nil => exact .refl v _
  | cons path rest ih =>
    have hpath := (ensureDirectory_attempted v path).grown.mono
      (List.subset_append_left _ (rest.flatMap Path.ancestors))
    simp only [ensureDirectories, List.flatMap_cons]
    split
    · rename_i w hw
      rw [hw] at hpath
      exact hpath.trans ((ih w).mono (List.subset_append_right _ _))
    · exact hpath

theorem ensureDirectories_isDirectory (hok : (v.ensureDirectories paths).1 = .ok ()) :
    ∀ path ∈ paths, (v.ensureDirectories paths).2.isDirectory path = .ok true := by
  induction paths generalizing v with
  | nil => simp
  | cons first rest ih =>
    have hfirst := (ensureDirectory_attempted v first).isDirectory
    simp only [ensureDirectories] at hok ⊢
    split at hok
    · rename_i w hw
      rw [hw] at hfirst
      have hgrown := ensureDirectories_grown w rest
      intro path hpath
      rcases List.mem_cons.mp hpath with rfl | hrest
      · exact hgrown.isDirectory (hfirst rfl)
      · exact ih hok path hrest
    · rename_i hfailed
      exact (hfailed _ (Prod.ext hok rfl)).elim

end View
end BuildLauncher.Files

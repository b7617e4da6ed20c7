import BuildLauncher.Proofs.Files.Arrival

/-!
# Canonical paths are free of links

Whatever is passed on a way is no link, or is left behind for its target. So a way with an end ends on
a path without links, and the canonical form is such a path, whether there is anything at it or not
(`View.physical_of_resolve`).
-/
namespace BuildLauncher.Files

/-- Paths from the root, and relative ones that are short enough to be asked for. -/
def Askable (p : Path) : Prop := p.isAbsolute = true ∨ p.text.utf8ByteSize < textLimit

instance (p : Path) : Decidable (Askable p) := inferInstanceAs (Decidable (_ ∨ _))

/-- The links on the way of a path come to an end, and all that is asked for there can be. -/
def View.Ends (v : View) (start : Path) : Prop :=
  ∃ links, (v.way links start.origin start.names).reached.isSome = true ∧
    ∀ p ∈ (v.way links start.origin start.names).asked, Askable p

/-- No link stands along a path, but for the front that climbs. -/
def Unlinked (v : View) (p : Path) : Prop :=
  ∀ q ∈ p.ancestors, q.names.getLast? ≠ some ".." →
    v.linkTarget? q = none ∧ (q.names ≠ [] → Askable q)

section Passing

variable {v : View} {good : Path → Prop} {p q canonical : Path} {name : String}
  {hname : IsName name} {names : List String} {location : Location} {n : Nat}

theorem ancestors_child (h : q ∈ (p.child name hname).ancestors) :
    q = p.child name hname ∨ q ∈ p.ancestors := by
  obtain ⟨hanchor, hfront⟩ := Path.mem_ancestors.mp h
  obtain hfront | hfront := List.prefix_concat_iff.mp hfront
  · exact .inl (Path.ext hanchor hfront)
  · exact .inr (Path.mem_ancestors.mpr ⟨hanchor, hfront⟩)

/-- There is no link where a way starts. -/
theorem unlinked_of_names_nil (hnil : p.names = []) : Unlinked v p := by
  intro q hq _
  obtain ⟨hsame, hfront⟩ := Path.mem_ancestors.mp hq
  have hempty : q.names = [] := by
    rw [hnil] at hfront
    exact List.prefix_nil.mp hfront
  refine ⟨?_, fun hne => absurd hempty hne⟩
  have hroom : q.text.utf8ByteSize < textLimit := by
    cases hq : q.anchor <;> simp [Path.text, hq, hempty, Anchor.text] <;> decide
  unfold View.linkTarget?
  cases hbase : v.base? q with
  | some base => rw [View.find_path hbase hroom, hempty, walk_done rfl]
  | none =>
    obtain ⟨hrelative, hnone⟩ := View.base?_eq_none.mp hbase
    rw [View.find_nowhere hrelative hnone hroom]

theorem Unlinked.child (h : Unlinked v p) (hlink : v.linkTarget? (p.child name hname) = none)
    (hasked : Askable (p.child name hname)) : Unlinked v (p.child name hname) := by
  intro q hq hlast
  obtain rfl | hq := ancestors_child hq
  · exact ⟨hlink, fun _ => hasked⟩
  · exact h q hq hlast

theorem Unlinked.climb (h : Unlinked v p) : Unlinked v p.climb := by
  have hfurther : Unlinked v (p.child ".." isName_up) := by
    intro q hq hlast
    obtain rfl | hq := ancestors_child hq
    · exact absurd (by simp [Path.child]) hlast
    · exact h q hq hlast
  unfold Path.climb
  split
  · split
    · exact hfurther
    · exact fun q hq => h q (Path.ancestors_parent_subset p hq)
  · split
    · exact h
    · exact hfurther

/-- A way without links before it has none behind it. -/
theorem Leads.unlinked (h : Leads v Askable p names n q) (hp : Unlinked v p) : Unlinked v q := by
  induction h with
  | done path => exact hp
  | skip _ _ ih => exact ih hp
  | up _ ih => exact ih hp.climb
  | enter _ _ hasked hlink _ ih => exact ih (hp.child hlink hasked)
  | follow _ _ _ _ _ ih =>
    refine ih ?_
    unfold targetStart
    split
    · exact unlinked_of_names_nil rfl
    · exact hp

/-- A way from a path that stands for a location ends at one. -/
theorem Leads.stands (hsound : v.Sound) (h : Leads v good p names n q)
    (hp : ∃ location, Stands v p location) : ∃ location, Stands v q location := by
  induction h with
  | done path => exact hp
  | skip _ _ ih => exact ih hp
  | up _ ih =>
    obtain ⟨location, hstands⟩ := hp
    exact ih ⟨_, hstands.climb hsound⟩
  | enter hup _ _ _ _ ih =>
    obtain ⟨location, hstands⟩ := hp
    exact ih ⟨_, hstands.child hup⟩
  | follow _ _ _ _ _ ih =>
    refine ih ?_
    unfold targetStart
    split
    · exact ⟨_, .fromRoot rfl (by simp [Path.root])⟩
    · exact hp

/-- Without a working directory a relative way meets no links. -/
theorem Leads.isAbsolute_eq_false (hnone : v.workingDir = none) (h : Leads v Askable p names n q)
    (hp : p.isAbsolute = false) : q.isAbsolute = false := by
  induction h with
  | done path => exact hp
  | skip _ _ ih => exact ih hp
  | up _ ih => exact ih (Path.isAbsolute_climb.trans hp)
  | enter _ _ _ _ _ ih => exact ih hp
  | @follow path _ name _ _ _ _ hname hasked hlink _ _ =>
    have hrelative : (path.child name hname).isAbsolute = false := hp
    have hroom := hasked.resolve_left (by simp [hrelative])
    rw [View.linkTarget?, View.find_nowhere hrelative hnone hroom] at hlink
    contradiction

/-- What is no link under one spelling is none under its own path. -/
theorem Stands.linkTarget?_eq_none (hsound : v.Sound) (h : Stands v p location)
    (hroom : p.text.utf8ByteSize < textLimit) (hlink : v.linkTarget? p = none)
    (hroot : q.anchor = .root) (hnames : q.names = location) : v.linkTarget? q = none := by
  by_cases hshort : q.text.utf8ByteSize < textLimit
  · rw [View.linkTarget?, h.find hsound hroom] at hlink
    rw [View.linkTarget?, View.find_text hroot hshort, hnames]
    exact hlink
  · exact View.linkTarget?_long (Nat.not_lt.mp hshort)

/-- Below the directory that a relative path climbs to, the same is found under the path's own
spelling. -/
theorem Unlinked.linkTarget?_below {base : Location} {k : Nat} {rest down : List String}
    (hsound : v.Sound) (hp : Unlinked v p) (hhere : p.anchor = .here)
    (hbase : v.workingDir = some base) (hspelled : p.names = List.replicate k ".." ++ rest)
    (hrest : ".." ∉ rest) (hmore : down <+: rest) (hnil : down ≠ []) (hroot : q.anchor = .root)
    (hdown : q.names = base.take (base.length - k) ++ down) : v.linkTarget? q = none := by
  have hstraight : ".." ∉ down := fun hmem => hrest (hmore.subset hmem)
  have halong : List.replicate k ".." ++ down <+: p.names := by
    rw [hspelled]
    exact (List.prefix_append_right_inj _).mpr hmore
  let spelled : Path := ⟨.here, List.replicate k ".." ++ down, fun s hs =>
    p.isName s (halong.subset hs)⟩
  have hlast : spelled.names.getLast? ≠ some ".." := by
    intro hlast
    rw [List.getLast?_append_of_ne_nil _ hnil] at hlast
    exact hstraight (List.mem_of_getLast? hlast)
  obtain ⟨hlink, hasked⟩ := hp spelled (Path.mem_ancestors.mpr ⟨hhere.symm, halong⟩) hlast
  have hroom : spelled.text.utf8ByteSize < textLimit :=
    (hasked (by simp [spelled, hnil])).resolve_left (by simp [Path.isAbsolute, spelled])
  exact (Stands.fromHere rfl hbase rfl hstraight).linkTarget?_eq_none hsound hroom hlink hroot hdown

/-- If no link stands along a path, none stands along the location it stands for. -/
theorem Stands.physical (hsound : v.Sound) (h : Stands v p location) (hp : Unlinked v p)
    (hroot : canonical.anchor = .root) (hnames : canonical.names = location) :
    v.Physical canonical := by
  cases h with
  | fromRoot hanchor hstraight =>
    obtain rfl : canonical = p := Path.ext (hroot.trans hanchor.symm) hnames
    refine ⟨hroot, hstraight, fun q hq => (hp q hq fun hlast => hstraight ?_).1⟩
    exact (Path.mem_ancestors.mp hq).2.subset (List.mem_of_getLast? hlast)
  | @fromHere base k rest hhere hbase hspelled hrest =>
    obtain ⟨here, hheld, rfl⟩ := hsound.held base hbase
    let above : Path := ⟨here.anchor, here.names.take (here.names.length - k), fun s hs =>
      here.isName s (List.mem_of_mem_take hs)⟩
    have habove : v.tree.Holds above :=
      hheld.of_mem_ancestors (Path.mem_ancestors.mpr ⟨rfl, List.take_prefix ..⟩)
    refine ⟨hroot, ?_, fun q hq => ?_⟩
    · rw [hnames, List.mem_append, not_or]
      exact ⟨fun hmem => (habove.entries _ hmem).proper rfl, hrest⟩
    obtain ⟨hanchor, hfront⟩ := Path.mem_ancestors.mp hq
    rw [hnames] at hfront
    -- Above the working directory there are directories alone.
    have hnear (hle : q.names <+: above.names) : v.linkTarget? q = none :=
      (habove.physical (d := v.workingDir)).unlinked q
        (Path.mem_ancestors.mpr ⟨hanchor.trans (hroot.trans habove.root.symm), hle⟩)
    obtain hle | ⟨down, hdown⟩ := List.prefix_or_prefix_of_prefix hfront (List.prefix_append ..)
    · exact hnear hle
    have hmore : down <+: rest := by
      rw [← hdown] at hfront
      exact (List.prefix_append_right_inj _).mp hfront
    by_cases hnil : down = []
    · rw [hnil, List.append_nil] at hdown
      exact hnear (hdown ▸ List.prefix_rfl)
    exact hp.linkTarget?_below hsound hhere hbase hspelled hrest hmore hnil (hanchor.trans hroot)
      hdown.symm

/-- The canonical form of a path has no links on it, if those on the way come to an end. -/
theorem View.physical_of_resolve {start : Path} (hsound : v.Sound) (hend : v.Ends start)
    (h : v.resolve start = .ok canonical) : v.Physical canonical := by
  obtain ⟨links, hreached, hasked⟩ := hend
  obtain ⟨q, hq⟩ := Option.isSome_iff_exists.mp hreached
  obtain ⟨n, -, hleads⟩ := leads_of_reached hasked hq
  have horigin : start.origin.names = [] ∧ start.origin.isAbsolute = start.isAbsolute := by
    unfold Path.origin
    split <;> simp_all [Path.root, Path.here, Path.isAbsolute]
  have hunlinked : Unlinked v q := hleads.unlinked (unlinked_of_names_nil horigin.1)
  obtain ⟨reached, absolute, hexpand, habsolute, rfl, -⟩ := resolve_eq_ok.mp h
  obtain rfl : reached = q := (expand_of_leads hleads v.expansionLimit).1 reached hexpand
  obtain ⟨location, hstands⟩ : ∃ location, Stands v reached location := by
    cases hbase : v.base? start with
    | some base => exact hleads.stands hsound ⟨base, Stands.origin hbase⟩
    | none =>
      obtain ⟨hstart, hnone⟩ := base?_eq_none.mp hbase
      have hrelative : reached.isAbsolute = false :=
        hleads.isAbsolute_eq_false hnone (horigin.2.trans hstart)
      rw [if_neg (by simp [hrelative])] at habsolute
      simp [currentPath, hnone] at habsolute
  obtain ⟨_, hsame, hroot, hnames⟩ := hstands.canonical hsound
  obtain rfl := Except.ok.inj (habsolute.symm.trans hsame)
  exact hstands.physical hsound hunlinked hroot hnames

theorem View.Physical.parent (h : v.Physical canonical) : v.Physical canonical.parent where
  root := h.root
  straight hmem := h.straight (List.mem_of_mem_dropLast hmem)
  unlinked q hq := h.unlinked q (Path.ancestors_parent_subset canonical hq)

end Passing

end BuildLauncher.Files

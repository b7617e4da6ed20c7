import Mathlib.Algebra.GroupWithZero.Nat
import BuildLauncher.Proofs.Files.Canonical
import BuildLauncher.Proofs.Files.Names

/-!
# Directories under their own paths

A tree holds a directory if its path leads to it name by name, through directories alone. Such a
path is its own canonical form, and what is below it is looked up from there (`Holds.find`).
-/
namespace BuildLauncher.Files

/-- A name that an entry of a directory can have. -/
structure IsEntry (name : String) : Prop where
  proper : name ≠ ".."
  short : name.utf8ByteSize ≤ nameLimit
  clean : View.hasNul name = false

instance (name : String) : Decidable (IsEntry name) :=
  decidable_of_iff (name ≠ ".." ∧ name.utf8ByteSize ≤ nameLimit ∧ View.hasNul name = false)
    ⟨fun ⟨proper, short, clean⟩ => ⟨proper, short, clean⟩, fun h => ⟨h.proper, h.short, h.clean⟩⟩

/-- A directory of the tree under its own path. All above it are directories too. -/
structure Tree.Holds (t : Tree) (p : Path) : Prop where
  root : p.anchor = .root
  entries : ∀ name ∈ p.names, IsEntry name
  directories : ∀ q ∈ p.ancestors, t.get? q.names = some .directory

instance (t : Tree) (p : Path) : Decidable (t.Holds p) :=
  decidable_of_iff (p.anchor = .root ∧ (∀ name ∈ p.names, IsEntry name) ∧
      ∀ q ∈ p.ancestors, t.get? q.names = some .directory)
    ⟨fun ⟨root, entries, directories⟩ => ⟨root, entries, directories⟩,
      fun h => ⟨h.root, h.entries, h.directories⟩⟩

namespace Path

variable {p q : Path} {names : List String}

theorem mem_intercalate {c : Char} (h : c ∈ ("/".intercalate names).toList) :
    c = '/' ∨ ∃ name ∈ names, c ∈ name.toList := by
  induction names with
  | nil => simp at h
  | cons first rest ih =>
    by_cases hrest : rest = []
    · simp_all
    · rw [String.intercalate_cons_of_ne_nil hrest] at h
      simp only [String.toList_append, List.mem_append] at h
      obtain (hfirst | hslash) | hmore := h
      · exact .inr ⟨first, by simp, hfirst⟩
      · exact .inl (by simpa using hslash)
      · obtain rfl | ⟨name, hname, hc⟩ := ih hmore
        · exact .inl rfl
        · exact .inr ⟨name, by simp [hname], hc⟩

/-- A path of clean names is clean. -/
theorem hasNul_text (h : p.anchor = .root) (hnames : ∀ name ∈ p.names, View.hasNul name = false) :
    View.hasNul p.text = false := by
  simp only [View.hasNul, List.contains_eq_mem, decide_eq_false_iff_not] at hnames ⊢
  rw [toList_text_of_root h]
  intro hmem
  obtain hslash | hmem := List.mem_cons.mp hmem
  · contradiction
  · obtain hslash | ⟨name, hname, hc⟩ := mem_intercalate hmem
    · contradiction
    · exact hnames name hname hc

theorem mem_ancestors_self (p : Path) : p ∈ p.ancestors :=
  mem_ancestors.mpr ⟨rfl, List.prefix_rfl⟩

theorem names_join (hq : q.anchor = .here) : (p.join q).names = p.names ++ q.names := by
  simp [join, isAbsolute, hq]

theorem anchor_join (hq : q.anchor = .here) : (p.join q).anchor = p.anchor := by
  simp [join, isAbsolute, hq]

theorem utf8ByteSize_intercalate (names : List String) :
    ("/".intercalate names).utf8ByteSize =
      (names.map String.utf8ByteSize).sum + (names.length - 1) := by
  induction names with
  | nil => rfl
  | cons first rest ih =>
    by_cases hrest : rest = []
    · simp [hrest]
    · have hslash : "/".utf8ByteSize = 1 := rfl
      have hpos : 0 < rest.length := List.length_pos_of_ne_nil hrest
      rw [String.intercalate_cons_of_ne_nil hrest]
      simp only [String.utf8ByteSize_append, ih, hslash, List.map_cons, List.sum_cons,
        List.length_cons]
      omega

/-- Below the parent a path is no longer than below the path itself. -/
theorem utf8ByteSize_join_parent_le (h : p.anchor = .root) (hq : q.anchor = .here) :
    (p.parent.join q).text.utf8ByteSize ≤ (p.join q).text.utf8ByteSize := by
  have hparent : p.parent.anchor = .root := h
  have hsize := utf8ByteSize_intercalate
  rw [text_of_root ((anchor_join hq).trans h), text_of_root ((anchor_join hq).trans hparent),
    names_join hq, names_join hq]
  simp only [String.utf8ByteSize_append, hsize, List.map_append, List.sum_append,
    List.length_append]
  obtain hnil | ⟨init, last, hnames⟩ := List.eq_nil_or_concat' p.names
  · simp [parent, hnil]
  · simp [parent, hnames]
    omega

theorem utf8ByteSize_le_of_mem_ancestors (h : p.anchor = .root) (hq : q ∈ p.ancestors) :
    q.text.utf8ByteSize ≤ p.text.utf8ByteSize := by
  obtain ⟨hanchor, rest, hnames⟩ := mem_ancestors.mp hq
  rw [text_of_root h, text_of_root (hanchor.trans h), ← hnames]
  simp only [String.utf8ByteSize_append, utf8ByteSize_intercalate, List.map_append, List.sum_append,
    List.length_append]
  omega

/-- Of two paths below the same one, that with the shorter names is the shorter one. -/
theorem utf8ByteSize_join_le {r : Path} (h : p.anchor = .root) (hq : q.anchor = .here)
    (hr : r.anchor = .here) (hne : q.names ≠ [])
    (hshorter : (q.names.map String.utf8ByteSize).sum + q.names.length ≤
      (r.names.map String.utf8ByteSize).sum + r.names.length) :
    (p.join q).text.utf8ByteSize ≤ (p.join r).text.utf8ByteSize := by
  have hsize := utf8ByteSize_intercalate
  have hpos : 0 < q.names.length := List.length_pos_of_ne_nil hne
  rw [text_of_root ((anchor_join hq).trans h), text_of_root ((anchor_join hr).trans h),
    names_join hq, names_join hr]
  simp only [String.utf8ByteSize_append, hsize, List.map_append, List.sum_append,
    List.length_append]
  omega

end Path

theorem View.find_long {v : View} {text : String} (h : textLimit ≤ text.utf8ByteSize)
    (follow : Bool) : v.find follow text = .error .nameTooLong := if_pos h

theorem View.linkTarget?_long {v : View} {p : Path} (h : textLimit ≤ p.text.utf8ByteSize) :
    v.linkTarget? p = none := by rw [linkTarget?, find_long h]

namespace Tree.Holds

variable {t : Tree} {p q : Path} {d : Option Location} {name : String} {rest more : List String}

theorem of_mem_ancestors (h : t.Holds p) (hq : q ∈ p.ancestors) : t.Holds q where
  root := (Path.mem_ancestors.mp hq).1.trans h.root
  entries name hname := h.entries name ((Path.mem_ancestors.mp hq).2.subset hname)
  directories r hr := by
    obtain ⟨hanchor, hnames⟩ := Path.mem_ancestors.mp hq
    obtain ⟨hanchor', hnames'⟩ := Path.mem_ancestors.mp hr
    exact h.directories r
      (Path.mem_ancestors.mpr ⟨hanchor'.trans hanchor, hnames'.trans hnames⟩)

theorem isAbsolute (h : t.Holds p) : p.isAbsolute = true := by simp [Path.isAbsolute, h.root]

theorem hasNul (h : t.Holds p) : View.hasNul p.text = false :=
  Path.hasNul_text h.root fun name hname => (h.entries name hname).clean

/-- A walk gets along the path of a directory that is held. -/
theorem advance_above (h : t.Holds p) (follow : Bool) (names : List String) (above : Location)
    (hnames : above ++ names = p.names) (more : List String) :
    advance t follow above (names ++ more) = advance t follow p.names more := by
  induction names generalizing above with
  | nil => rw [← hnames, List.append_nil, List.nil_append]
  | cons name rest ih =>
    have hmem : name ∈ p.names := by simp [← hnames]
    have hentry := h.entries name hmem
    have hnext : above ++ [name] ++ rest = p.names := by simpa using hnames
    have hdirectory : t.get? (above ++ [name]) = some .directory := by
      have hname : ∀ n ∈ above ++ [name], IsName n := fun n hn =>
        p.isName n (hnext ▸ List.mem_append_left rest hn)
      exact h.directories ⟨.root, above ++ [name], hname⟩
        (Path.mem_ancestors.mpr ⟨h.root.symm, rest, hnext⟩)
    rw [List.cons_append, advance_name (p.isName name hmem).2.1 hentry.proper
      (Nat.not_lt.mpr hentry.short), hdirectory]
    exact ih _ hnext

theorem advance (h : t.Holds p) (follow : Bool) (more : List String) :
    Files.advance t follow [] (p.names ++ more) = Files.advance t follow p.names more :=
  h.advance_above follow p.names [] rfl more

/-- What is below a directory that is held is looked up from there. -/
theorem find (h : t.Holds p) (hq : q.anchor = .here)
    (hroom : (p.join q).text.utf8ByteSize < textLimit) (follow : Bool) :
    (View.mk t d).find follow (p.join q).text = walk t follow linkLimit p.names q.names := by
  rw [View.find_text ((Path.anchor_join hq).trans h.root) hroom, Path.names_join hq, walk.eq_def,
    walk.eq_def t follow linkLimit p.names, h.advance]

/-- A path to a directory that is held leads to it, if it is short enough to be asked for. -/
theorem find_self (h : t.Holds p) (hroom : p.text.utf8ByteSize < textLimit) (follow : Bool) :
    (View.mk t d).find follow p.text = .ok (.node p.names .directory) := by
  have hadvance : Files.advance t follow [] p.names = .ok (.done (.node p.names .directory)) := by
    simpa [Files.advance] using h.advance follow []
  rw [View.find_text h.root hroom, walk_done hadvance]

theorem physical (h : t.Holds p) : (View.mk t d).Physical p where
  root := h.root
  straight hmem := (h.entries _ hmem).proper rfl
  unlinked q hq := by
    unfold View.linkTarget?
    by_cases hroom : q.text.utf8ByteSize < textLimit
    · rw [(h.of_mem_ancestors hq).find_self hroom]
    · rw [View.find_long (Nat.not_lt.mp hroom)]

/-- The path of a directory that is held is canonical. -/
theorem resolve (h : t.Holds p) : (View.mk t d).resolve p = .ok p := by
  refine h.physical.resolve h.hasNul ?_
  unfold View.node?
  by_cases hroom : p.text.utf8ByteSize < textLimit
  · simp [h.find_self hroom]
  · simp [View.find_long (Nat.not_lt.mp hroom)]

/-- In a directory that is held it is the working directory. -/
theorem currentPath (h : t.Holds p) : (View.mk t (some p.names)).currentPath = .ok p := by
  simp only [View.currentPath]
  rw [← Path.text_of_root h.root, Path.ofText_text h.root]

/-- There is no file below a directory where the first name on the way to it is missing. -/
theorem isFile_absent (h : t.Holds p) (hq : q.anchor = .here) (hnames : q.names = name :: rest)
    (hentry : IsEntry name) (habsent : t.get? (p.names ++ [name]) = none)
    (hroom : (p.join q).text.utf8ByteSize < textLimit) :
    (View.mk t d).isFile (p.join q) = .ok false := by
  have hname : IsName name := q.isName name (by simp [hnames])
  have hwalk : walk t true linkLimit p.names q.names =
      if rest = [] then .ok (.vacant (p.names ++ [name])) else .error .notFound := by
    rw [walk.eq_def, hnames, advance_name hname.2.1 hentry.proper (Nat.not_lt.mpr hentry.short),
      habsent]
    by_cases hrest : rest = [] <;> simp [hrest]
  have hnode : (View.mk t d).node? (p.join q).text = .error .notFound := by
    rw [View.node?, h.find hq hroom, hwalk]
    by_cases hrest : rest = [] <;> simp [hrest]
  unfold View.isFile View.test
  rw [hnode]
  split <;> rfl

/-- To look for a file below a directory fails, if the path is too long to be asked for. -/
theorem isFile_long (h : t.Holds p) (hq : q.anchor = .here)
    (hclean : ∀ name ∈ q.names, View.hasNul name = false)
    (hlong : textLimit ≤ (p.join q).text.utf8ByteSize) :
    (View.mk t d).isFile (p.join q) = .error (longName (p.join q)) := by
  have hnul : View.hasNul (p.join q).text = false := by
    refine Path.hasNul_text ((Path.anchor_join hq).trans h.root) fun name hname => ?_
    rw [Path.names_join hq] at hname
    exact (List.mem_append.mp hname).elim (fun hp => (h.entries name hp).clean) (hclean name)
  refine View.isFile_eq_error.mpr ⟨?_, rfl⟩
  rw [View.tooLong, hnul, View.node?, View.find_long hlong]
  rfl

end Tree.Holds

end BuildLauncher.Files

import BuildLauncher.Proofs.Files.Collapse
import BuildLauncher.Proofs.Files.Walking

/-!
# Paths that stand for a location

A path from the root stands for its names, and any other for what is left of the working directory
after it has climbed, with the names it goes down by. Where nothing but its front climbs, a path is
looked up at the location it stands for (`Stands.find`), and in canonical form its names are that
location (`Stands.canonical`).
-/
namespace BuildLauncher.Files

namespace Path

variable {p : Path} {rest : List String} {n : Nat}

theorem steps_intercalate (hne : p.names ≠ []) :
    (parts ("/".intercalate p.names).toList).filter (· ≠ "") = p.names ∧
      ("/".intercalate p.names).toList.getLast? ≠ some '/' := by
  refine ⟨?_, getLast?_intercalate p.isName⟩
  rw [parts_intercalate p.isName hne]
  exact List.filter_eq_self.mpr fun n hn => decide_eq_true (p.isName n hn).1

/-- A walk along any path takes its names; the one without anchor and names is a point. -/
theorem steps_text_of_isAbsolute (h : p.isAbsolute = true) : steps p.text.toList = p.names := by
  cases hanchor : p.anchor with
  | here => simp [isAbsolute, hanchor] at h
  | root => exact steps_text hanchor
  | doubleRoot =>
    have htext : p.text.toList = '/' :: '/' :: ("/".intercalate p.names).toList := by
      rw [text_of_anchor_ne (by simp [hanchor]), hanchor, Anchor.text, String.toList_append]
      rfl
    rw [steps, htext, parts_slash, parts_slash]
    by_cases hne : p.names = []
    · rw [hne]
      decide
    · obtain ⟨hnames, hlast⟩ := steps_intercalate hne
      rw [List.filter_cons_of_neg (by simp), List.filter_cons_of_neg (by simp), hnames,
        List.getLast?_cons_of_ne_nil (by simp),
        List.getLast?_cons_of_ne_nil (toList_intercalate_ne_nil p.isName hne), decide_eq_false hlast]
      rfl

theorem steps_text_of_here (h : p.anchor = .here) (hne : p.names ≠ []) :
    isRooted p.text = false ∧ p.text ≠ "" ∧ steps p.text.toList = p.names := by
  have htext : p.text = "/".intercalate p.names := by
    simp [text, h, hne, Anchor.text]
  obtain ⟨hnames, hlast⟩ := steps_intercalate hne
  refine ⟨?_, ?_, ?_⟩
  · rw [htext, isRooted, decide_eq_false (head?_intercalate p.isName)]
  · rw [htext]
    exact fun hempty => toList_intercalate_ne_nil p.isName hne (by rw [hempty]; rfl)
  · rw [steps, htext, hnames, decide_eq_false hlast]
    rfl

/-- A path that climbs at its front only loses nothing by collapsing. -/
theorem names_collapse_of_climbs (h : p.anchor = .here)
    (hnames : p.names = List.replicate n ".." ++ rest) (hrest : ".." ∉ rest) :
    p.collapse.names = List.replicate n ".." ++ rest := by
  have hclimbs (n : Nat) :
      (List.replicate n "..").foldl (settle false) [] = List.replicate n ".." := by
    induction n with
    | zero => rfl
    | succ n ih =>
      rw [List.replicate_succ', List.foldl_append, ih, ← List.replicate_succ']
      exact settle_climb n
  have hdown (before names : List String) (hstraight : ".." ∉ names) :
      names.foldl (settle false) before = before ++ names := by
    induction names generalizing before with
    | nil => simp
    | cons name names ih =>
      have hname : name ≠ ".." := fun heq => hstraight (heq ▸ List.mem_cons_self)
      rw [List.foldl_cons, settle_name false hname, ih _ fun hmem => hstraight (List.mem_cons_of_mem _ hmem)]
      simp
  rw [names_collapse, hnames, isAbsolute, h, List.foldl_append]
  simp only [ne_eq, not_true_eq_false, decide_false, hclimbs]
  exact hdown _ rest hrest

end Path

/-- Where a walk along a path starts. -/
def View.base? (v : View) (p : Path) : Option Location :=
  if p.isAbsolute then some [] else v.workingDir

/-- In a sound view no name of the tree has a NUL character, and the working directory is there. -/
structure View.Sound (v : View) : Prop where
  clean : ∀ e ∈ v.tree.entries, ∀ name ∈ e.1, View.hasNul name = false
  held : ∀ base ∈ v.workingDir, ∃ here : Path, v.tree.Holds here ∧ here.names = base

/-- A path without pairs of points from the root, or one that only climbs before it goes down, stands
for a location. -/
inductive Stands (v : View) : Path → Location → Prop
  | fromRoot {p : Path} (hroot : p.anchor = .root) (hstraight : ".." ∉ p.names) : Stands v p p.names
  | fromHere {p : Path} {base : Location} {n : Nat} {rest : List String} (hhere : p.anchor = .here)
      (hbase : v.workingDir = some base) (hnames : p.names = List.replicate n ".." ++ rest)
      (hrest : ".." ∉ rest) : Stands v p (base.take (base.length - n) ++ rest)

section Standing

variable {v : View} {t : Tree} {p q : Path} {location base : Location} {name : String}
  {hname : IsName name} {names more : List String} {n : Nat} {node : Node}

theorem Tree.mem_of_get? (h : t.get? location = some node) (hne : location ≠ []) :
    (location, node) ∈ t.entries := by
  rw [get?, if_neg hne] at h
  obtain ⟨before, after, hentries, -⟩ := List.lookup_eq_some_iff.mp h
  simp [hentries]

theorem View.Sound.hasNul (h : v.Sound) (hnode : v.tree.get? location = some node) :
    ∀ name ∈ location, View.hasNul name = false := by
  intro name hname
  exact h.clean _ (Tree.mem_of_get? hnode (List.ne_nil_of_mem hname)) name hname

namespace View

/-- A path is walked along its names from where it starts. -/
theorem find_path (hbase : v.base? p = some base) (hroom : p.text.utf8ByteSize < textLimit)
    (follow : Bool) : v.find follow p.text = walk v.tree follow linkLimit base p.names := by
  unfold base? at hbase
  split at hbase
  · rename_i habsolute
    obtain rfl := Option.some.inj hbase
    have hrooted := Path.isRooted_text habsolute
    have hne : p.text ≠ "" := by
      rintro hempty
      simp [hempty, isRooted] at hrooted
    rw [find, if_neg (by omega), if_neg hne, if_pos hrooted, Path.steps_text_of_isAbsolute habsolute]
  · rename_i hrelative
    have hhere : p.anchor = .here := by simpa [Path.isAbsolute] using hrelative
    by_cases hne : p.names = []
    · have htext : p.text = "." := by simp [Path.text, hhere, hne]
      have hsteps : steps ".".toList = ["."] := by decide
      rw [find, if_neg (by omega), htext, if_neg (by decide), if_neg (by decide), hbase, hne]
      simp only [hsteps, walk.eq_def v.tree follow linkLimit base, advance, if_true]
    · obtain ⟨hrooted, hempty, hsteps⟩ := Path.steps_text_of_here hhere hne
      rw [find, if_neg (by omega), if_neg hempty, hrooted, if_neg Bool.false_ne_true, hbase, hsteps]

/-- Without a working directory no relative path leads anywhere. -/
theorem find_nowhere {follow : Bool} (hrelative : p.isAbsolute = false) (hnone : v.workingDir = none)
    (hroom : p.text.utf8ByteSize < textLimit) : v.find follow p.text = .error .notFound := by
  have hhere : p.anchor = .here := by simpa [Path.isAbsolute] using hrelative
  rw [find, if_neg (by omega)]
  by_cases hne : p.names = []
  · have htext : p.text = "." := by simp [Path.text, hhere, hne]
    rw [htext, if_neg (by decide), if_neg (by decide), hnone]
  · obtain ⟨hrooted, hempty, -⟩ := Path.steps_text_of_here hhere hne
    rw [if_neg hempty, hrooted, if_neg Bool.false_ne_true, hnone]

end View

namespace Stands

theorem child (h : Stands v p location) (hup : name ≠ "..") :
    Stands v (p.child name hname) (location ++ [name]) := by
  cases h with
  | fromRoot hroot hstraight =>
    refine .fromRoot hroot ?_
    simp [Path.child, hstraight, Ne.symm hup]
  | @fromHere base n rest hhere hbase hnames hrest =>
    rw [List.append_assoc]
    refine .fromHere hhere hbase ?_ ?_
    · simp [Path.child, hnames]
    · simp [hrest, Ne.symm hup]

theorem climb (hsound : v.Sound) (h : Stands v p location) : Stands v p.climb location.dropLast := by
  have hanchor := Path.anchor_climb p
  cases h with
  | fromRoot hroot hstraight =>
    have hnames : p.climb.names = p.names.dropLast := by
      rw [Path.names_climb, Path.settle_up hstraight fun _ => by simp [Path.isAbsolute, hroot]]
    rw [← hnames]
    refine .fromRoot (hanchor.trans hroot) ?_
    rw [hnames]
    exact fun hmem => hstraight (List.mem_of_mem_dropLast hmem)
  | @fromHere base n rest hhere hbase hnames hrest =>
    obtain ⟨here, hheld, rfl⟩ := hsound.held base hbase
    have hbaseUp : ".." ∉ here.names := fun hmem => (hheld.entries _ hmem).proper rfl
    obtain ⟨n', rest', hrest', hclimb, hplace⟩ := Path.settle_beside hbaseUp hrest n ".."
    rw [Path.settle_up (by
      rw [List.mem_append, not_or]
      exact ⟨fun hmem => hbaseUp (List.mem_of_mem_take hmem), hrest⟩) fun _ => rfl] at hplace
    rw [hplace]
    refine .fromHere (hanchor.trans hhere) hbase ?_ hrest'
    rw [Path.names_climb, hnames, Path.isAbsolute, hhere]
    exact hclimb

/-- What a path leads to is what is found along the location that it stands for. -/
theorem find (hsound : v.Sound) (h : Stands v p location) (hroom : p.text.utf8ByteSize < textLimit)
    (follow : Bool) : v.find follow p.text = walk v.tree follow linkLimit [] location := by
  cases h with
  | fromRoot hroot _ =>
    exact View.find_path (by simp [View.base?, Path.isAbsolute, hroot]) hroom follow
  | @fromHere base n rest hhere hbase hnames _ =>
    obtain ⟨here, hheld, rfl⟩ := hsound.held base hbase
    have hstart : v.base? p = some here.names := by simp [View.base?, Path.isAbsolute, hhere, hbase]
    -- What is left of the working directory after climbing is there as well.
    let above : Path := ⟨here.anchor, here.names.take (here.names.length - n), fun s hs =>
      here.isName s (List.mem_of_mem_take hs)⟩
    have habove : v.tree.Holds above :=
      hheld.of_mem_ancestors (Path.mem_ancestors.mpr ⟨rfl, List.take_prefix ..⟩)
    rw [View.find_path hstart hroom, hnames]
    refine walk_eq_of_advance ?_ linkLimit
    rw [advance_climbs]
    exact (habove.advance follow rest).symm

/-- In canonical form a path has the names of the location that it stands for. -/
theorem canonical (hsound : v.Sound) (h : Stands v p location) : ∃ absolute : Path,
    (if p.isAbsolute then pure p else v.currentPath.map (·.join p) : Except Error Path) =
        .ok absolute ∧
      absolute.collapse.anchor = .root ∧ absolute.collapse.names = location := by
  cases h with
  | fromRoot hroot hstraight =>
    refine ⟨p, by simp [Path.isAbsolute, hroot, pure, Except.pure], ?_⟩
    rw [View.collapse_of_straight hstraight]
    exact ⟨hroot, rfl⟩
  | @fromHere base n rest hhere hbase hnames hrest =>
    obtain ⟨here, hheld, rfl⟩ := hsound.held base hbase
    have hrelative : p.isAbsolute = false := by simp [Path.isAbsolute, hhere]
    have hcurrent : v.currentPath = .ok here := by
      obtain ⟨t, d⟩ := v
      obtain rfl : d = some here.names := hbase
      exact hheld.currentPath
    have hstraight : here.collapse = here :=
      View.collapse_of_straight fun hmem => (hheld.entries _ hmem).proper rfl
    obtain ⟨hn, hdown⟩ :=
      Path.climbs_descent hrest (Path.names_collapse_of_climbs hhere hnames hrest)
    refine ⟨here.join p, by rw [if_neg (by simp [hrelative]), hcurrent, map_ok], ?_, ?_⟩
    · rw [Path.anchor_collapse_join hrelative, Path.anchor_collapse, hheld.root]
    · rw [Path.names_collapse_join hheld.isAbsolute hrelative, hstraight, hn, hdown]

end Stands

end Standing

end BuildLauncher.Files

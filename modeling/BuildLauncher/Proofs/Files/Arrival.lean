import BuildLauncher.Proofs.Files.Expansion
import BuildLauncher.Proofs.Files.Standing

/-!
# Canonical paths arrive where the system does

Where the system finds a node, the way of the path leads to the same place, as long as everything that
is asked for on the way is short enough to be asked for (`leads_of_walk`). So the canonical form of the
path is the location of the node (`View.resolve_of_locates`).
-/
namespace BuildLauncher.Files

/-- A file lies in the directory above it, and a directory in itself. -/
inductive Lies (t : Tree) (directory : Path) : Location → Node → Prop
  | itself (hheld : t.Holds directory) : Lies t directory directory.names .directory
  | within {name : String} {node : Node} (hheld : t.Holds directory) (hname : IsName name)
      (hentry : IsEntry name) (hnode : t.get? (directory.names ++ [name]) = some node)
      (hfile : node.isFile = true) : Lies t directory (directory.names ++ [name]) node

/-- The last name of a path has no NUL character. -/
def CleanEnd (p : Path) : Prop := ∀ name ∈ p.names.getLast?, View.hasNul name = false

theorem CleanEnd.child {p : Path} {name : String} {hname : IsName name}
    (h : View.hasNul name = false) : CleanEnd (p.child name hname) := by
  simpa [CleanEnd, Path.child] using h

/-- A path that can be asked for, with a last name that can be looked up. -/
structure Fits (p : Path) : Prop where
  cleanEnd : CleanEnd p
  short : p.text.utf8ByteSize < textLimit

/-- Whatever is asked for on the way of a path is short enough to be asked for. -/
def View.InReach (v : View) (start : Path) : Prop :=
  ∀ p ∈ (v.way linkLimit start.origin start.names).asked, p.text.utf8ByteSize < textLimit

instance (v : View) (start : Path) : Decidable (v.InReach start) :=
  inferInstanceAs (Decidable (∀ p ∈ _, _))

section Steps

variable {names : List String}

theorem not_mem_of_mem_splitOn {separator : Char} {s part : List Char}
    (h : part ∈ s.splitOn separator) : separator ∉ part := by
  induction s generalizing part with
  | nil => simp_all
  | cons first rest ih =>
    rw [List.splitOn_cons_eq_if_modifyHead] at h
    split at h
    · obtain rfl | hmem := List.mem_cons.mp h
      · simp
      · exact ih hmem
    · rename_i hfirst
      obtain ⟨head, tail, hparts⟩ := List.exists_cons_of_ne_nil (List.splitOn_ne_nil separator rest)
      rw [hparts, List.modifyHead_cons] at h
      rw [hparts] at ih
      obtain rfl | hmem := List.mem_cons.mp h
      · have hne : separator ≠ first := fun heq => hfirst (by simp [heq])
        simp [hne, ih List.mem_cons_self]
      · exact ih (List.mem_cons_of_mem _ hmem)

/-- A walk takes names and points. -/
theorem eq_point_or_isName_of_mem_steps {s : List Char} {name : String} (h : name ∈ steps s) :
    name = "." ∨ IsName name := by
  have hparts : ∀ name ∈ (Path.parts s).filter (· ≠ ""), name = "." ∨ IsName name := by
    intro name hname
    obtain ⟨hpart, hne⟩ := List.mem_filter.mp hname
    obtain ⟨part, hmem, rfl⟩ := List.mem_map.mp hpart
    by_cases hpoint : String.ofList part = "."
    · exact .inl hpoint
    · refine .inr ⟨by simpa using hne, hpoint, ?_⟩
      rw [String.toList_ofList]
      exact not_mem_of_mem_splitOn hmem
  unfold steps at h
  dsimp only at h
  split at h
  · obtain hname | hpoint := List.mem_append.mp h
    · exact hparts name hname
    · exact .inl (List.mem_singleton.mp hpoint)
  · exact hparts name h

/-- The names among the steps of a text are those among its parts. -/
theorem properNames_steps (s : List Char) : properNames (steps s) = properNames (Path.parts s) := by
  have hfilter : properNames ((Path.parts s).filter (· ≠ "")) = properNames (Path.parts s) := by
    rw [properNames, List.filter_filter, properNames]
    refine List.filter_congr fun name _ => ?_
    by_cases hname : IsName name
    · simp [hname, hname.1]
    · simp [hname]
  unfold steps
  dsimp only
  split
  · rw [properNames_append, hfilter]
    have hpoint : properNames ["."] = [] := by decide
    rw [hpoint, List.append_nil]
  · exact hfilter

end Steps

section Arriving

variable {v : View} {t : Tree} {p d : Path} {location : Location} {name target : String}
  {hname : IsName name} {names rest : List String} {node : Node} {links : Nat}
  {further : Path → List String → Way}

namespace Tree.Holds

theorem parent (h : t.Holds d) : t.Holds d.parent :=
  h.of_mem_ancestors (Path.mem_ancestors.mpr ⟨rfl, List.dropLast_prefix _⟩)

theorem child (h : t.Holds d) (hentry : IsEntry name)
    (hdirectory : t.get? (d.names ++ [name]) = some .directory) : t.Holds (d.child name hname) where
  root := h.root
  entries other hother := by
    obtain hother | hother := List.mem_append.mp hother
    · exact h.entries other hother
    · exact List.mem_singleton.mp hother ▸ hentry
  directories q hq := by
    obtain ⟨hanchor, hfront⟩ := Path.mem_ancestors.mp hq
    obtain hfront | hfront := List.prefix_concat_iff.mp hfront
    · rw [hfront]
      exact hdirectory
    · exact h.directories q (Path.mem_ancestors.mpr ⟨hanchor, hfront⟩)

theorem of_root : t.Holds .root where
  root := rfl
  entries _ h := by simp [Path.root] at h
  directories q hq := by
    have hnil : q.names = [] := List.prefix_nil.mp (Path.mem_ancestors.mp hq).2
    rw [hnil, Tree.get?_nil]

theorem walk_child (h : t.Holds d) (follow : Bool) (links : Nat) (names : List String) :
    walk t follow links [] (d.names ++ names) = walk t follow links d.names names :=
  walk_eq_of_advance (h.advance follow names) links

/-- The next name on the way to a directory that is held is no link. -/
theorem next (h : v.tree.Holds d) (hroot : p.anchor = .root)
    (hnames : p.names ++ name :: names = d.names) : ∃ hname : IsName name, name ≠ ".." ∧
      p.child name hname ∈ d.ancestors ∧ v.linkTarget? (p.child name hname) = none ∧
      (p.child name hname).names ++ names = d.names := by
  have hmem : name ∈ d.names := by simp [← hnames]
  have hname : IsName name := d.isName name hmem
  have hnext : (p.child name hname).names ++ names = d.names := by
    simpa [Path.child] using hnames
  have hancestor : p.child name hname ∈ d.ancestors :=
    Path.mem_ancestors.mpr ⟨hroot.trans h.root.symm, names, hnext⟩
  exact ⟨hname, (h.entries name hmem).proper, hancestor,
    (h.physical (d := v.workingDir)).unlinked _ hancestor, hnext⟩

/-- On the way of a directory that is held the directories above it are asked for, and itself. -/
theorem mem_ancestors_of_asked (h : v.tree.Holds d) (hroot : p.anchor = .root)
    (hnames : p.names ++ names = d.names) :
    ∀ q ∈ (v.wayUntil further p names).asked, q ∈ d.ancestors := by
  induction names generalizing p with
  | nil => exact nofun
  | cons name rest ih =>
    obtain ⟨hname, hup, hancestor, hlink, hnext⟩ := h.next hroot hnames
    rw [View.wayUntil_enter hup hname hlink]
    exact List.forall_mem_cons.mpr ⟨hancestor, ih hroot hnext⟩

/-- The way along a directory that is held leads on from there. -/
theorem leads {good : Path → Prop} {q : Path} {n : Nat} (h : v.tree.Holds d)
    (hgood : ∀ r ∈ d.ancestors, good r) (hroot : p.anchor = .root) (hnames : p.names ++ names = d.names)
    (hmore : Leads v good d rest n q) : Leads v good p (names ++ rest) n q := by
  induction names generalizing p with
  | nil =>
    obtain rfl : p = d := Path.ext (hroot.trans h.root.symm) (by simpa using hnames)
    exact hmore
  | cons name names ih =>
    obtain ⟨hname, hup, hancestor, hlink, hnext⟩ := h.next hroot hnames
    exact .enter hup hname (hgood _ hancestor) hlink (ih hroot hnext)

theorem inReach (h : v.tree.Holds d) (hroom : d.text.utf8ByteSize < textLimit) : v.InReach d := by
  intro q hq
  have horigin : d.origin = .root := if_pos h.isAbsolute
  rw [horigin] at hq
  exact (Path.utf8ByteSize_le_of_mem_ancestors h.root
    (h.mem_ancestors_of_asked rfl (List.nil_append _) q hq)).trans_lt hroom

end Tree.Holds

/-- What stands at a name in a directory. -/
theorem linkTarget?_child (hsound : v.Sound) (hd : v.tree.Holds d) (hstands : Stands v p d.names)
    (hup : name ≠ "..") (hlong : ¬nameLimit < name.utf8ByteSize)
    (hroom : (p.child name hname).text.utf8ByteSize < textLimit) :
    v.linkTarget? (p.child name hname) =
      match v.tree.get? (d.names ++ [name]) with
      | some (.link target) => some target
      | _ => none := by
  rw [View.linkTarget?, (hstands.child hup).find hsound hroom, hd.walk_child, walk.eq_def,
    advance_name hname.2.1 hup hlong]
  split
  · rename_i hnode
    cases hget : v.tree.get? (d.names ++ [name]) with
    | none => simp [hget] at hnode
    | some node => cases node <;> simp_all [advance]
  · rename_i hnode
    cases hget : v.tree.get? (d.names ++ [name]) with
    | none => rfl
    | some node => cases node <;> simp_all

/-- Where a walk pauses, the way along the same names has come to the same place. -/
def ArrivesAt (v : View) (further : Path → List String → Way) (p : Path) (names : List String) :
    Pause → Prop
  | .done (.node location node) => ∃ q directory, Leads v Fits p names 0 q ∧
      Stands v q location ∧ Lies v.tree directory location node
  | .done (.vacant _) => True
  | .link location target rest => ∃ next d : Path, v.tree.Holds d ∧ d.names = location ∧
      Stands v next location ∧ (∀ name ∈ rest, name = "." ∨ IsName name) ∧
      (∀ q ∈ (further (targetStart next target) (Path.parts target.toList ++ rest)).asked,
        q.text.utf8ByteSize < textLimit) ∧
      ∀ n q, Leads v Fits (targetStart next target) (Path.parts target.toList ++ rest) n q →
        Leads v Fits p names (n + 1) q

/-- What leads on from one point to the next brings the first to where the second comes. -/
theorem ArrivesAt.of_step {q : Path} {pause : Pause} (h : ArrivesAt v further q rest pause)
    (hstep : ∀ n r, Leads v Fits q rest n r → Leads v Fits p names n r) :
    ArrivesAt v further p names pause := by
  match pause with
  | .done (.vacant _) => trivial
  | .done (.node _ _) =>
    obtain ⟨r, directory, hleads, hend⟩ := h
    exact ⟨r, directory, hstep 0 r hleads, hend⟩
  | .link _ _ _ =>
    obtain ⟨next, d, hd, hlocation, hstands, hrest, hasked, hmore⟩ := h
    exact ⟨next, d, hd, hlocation, hstands, hrest, hasked, fun n r hr => hstep _ r (hmore n r hr)⟩

/-- A name that is looked up leads to what is there. From a directory the walk goes on. -/
theorem arrivesAt_of_name {pause : Pause} (hsound : v.Sound) (hd : v.tree.Holds d)
    (hstands : Stands v p d.names) (hup : name ≠ "..") (hname : IsName name)
    (hrest : ∀ name ∈ rest, name = "." ∨ IsName name)
    (hasked : ∀ q ∈ (v.wayUntil further p (name :: rest)).asked, q.text.utf8ByteSize < textLimit)
    (hadvance : advance v.tree true d.names (name :: rest) = .ok pause)
    (henter : v.tree.Holds (d.child name hname) →
      (∀ q ∈ (v.wayUntil further (p.child name hname) rest).asked,
        q.text.utf8ByteSize < textLimit) →
      advance v.tree true (d.child name hname).names rest = .ok pause →
      ArrivesAt v further (p.child name hname) rest pause) :
    ArrivesAt v further p (name :: rest) pause := by
  by_cases hlong : nameLimit < name.utf8ByteSize
  · simp [advance, hname.2.1, hup, hlong] at hadvance
  have hroom : (p.child name hname).text.utf8ByteSize < textLimit := by
    refine hasked _ ?_
    rw [View.wayUntil, if_neg hup, dif_pos hname]
    exact List.mem_cons_self
  have hlink := linkTarget?_child hsound hd hstands hup hlong hroom
  rw [advance_name hname.2.1 hup hlong] at hadvance
  cases hget : v.tree.get? (d.names ++ [name]) with
  | none =>
    simp only [hget] at hadvance
    split at hadvance
    · obtain rfl := Except.ok.inj hadvance
      trivial
    · contradiction
  | some node =>
    have hclean : View.hasNul name = false := hsound.hasNul hget name (by simp)
    have hfits : Fits (p.child name hname) := ⟨.child hclean, hroom⟩
    have hentry : IsEntry name := ⟨hup, Nat.not_lt.mp hlong, hclean⟩
    simp only [hget] at hadvance hlink
    cases node with
    | directory =>
      rw [View.wayUntil_enter hup hname hlink] at hasked
      exact (henter (hd.child hentry hget) (List.forall_mem_cons.mp hasked).2 hadvance).of_step
        fun _ _ hleads => .enter hup hname hfits hlink hleads
    | link target =>
      obtain rfl : Pause.link d.names target rest = pause := by simpa using hadvance
      rw [View.wayUntil_follow hup hname hlink] at hasked
      exact ⟨p, d, hd, rfl, hstands, hrest, (List.forall_mem_cons.mp hasked).2,
        fun _ _ hleads => .follow hup hname hfits hlink hleads⟩
    | file | program =>
      dsimp only at hadvance
      split at hadvance
      · obtain rfl := Except.ok.inj hadvance
        rename_i hnil
        subst hnil
        exact ⟨p.child name hname, d, .enter hup hname hfits hlink (.done _), hstands.child hup,
          .within hd hname hentry hget rfl⟩
      · contradiction

theorem arrivesAt_of_advance {pause : Pause} (hsound : v.Sound) (hd : v.tree.Holds d)
    (hstands : Stands v p d.names) (hnames : ∀ name ∈ names, name = "." ∨ IsName name)
    (hasked : ∀ q ∈ (v.wayUntil further p names).asked, q.text.utf8ByteSize < textLimit)
    (hadvance : advance v.tree true d.names names = .ok pause) :
    ArrivesAt v further p names pause := by
  induction names generalizing p d with
  | nil =>
    obtain rfl := Except.ok.inj hadvance
    exact ⟨p, d, .done p, hstands, .itself hd⟩
  | cons name rest ih =>
    obtain ⟨hfirst, hrest⟩ := List.forall_mem_cons.mp hnames
    obtain rfl | hname := hfirst
    · have hpoint : ¬IsName "." := by decide
      rw [View.wayUntil_skip hpoint] at hasked
      rw [advance, if_pos rfl] at hadvance
      exact (ih hd hstands hrest hasked hadvance).of_step fun _ _ hleads => .skip hpoint hleads
    by_cases hup : name = ".."
    · subst hup
      rw [View.wayUntil_up] at hasked
      rw [advance, if_neg (by decide), if_pos rfl] at hadvance
      exact (ih hd.parent (hstands.climb hsound) hrest hasked hadvance).of_step
        fun _ _ hleads => .up hleads
    exact arrivesAt_of_name hsound hd hstands hup hname hrest hasked hadvance
      fun hchild => ih hchild (hstands.child hup) hrest

/-- Where the system finds a node, the way along the same names comes to the same place. -/
theorem leads_of_walk {links : Nat} {p d : Path} {names : List String} (hsound : v.Sound)
    (hd : v.tree.Holds d) (hstands : Stands v p d.names)
    (hnames : ∀ name ∈ names, name = "." ∨ IsName name)
    (hasked : ∀ q ∈ (v.way links p names).asked, q.text.utf8ByteSize < textLimit)
    (hwalk : walk v.tree true links d.names names = .ok (.node location node)) :
    ∃ n ≤ links, ∃ q directory, Leads v Fits p names n q ∧ Stands v q location ∧
      Lies v.tree directory location node := by
  obtain hdone | ⟨fewer, directory, target, rest, rfl, hlink, honward⟩ := walk_cases hwalk
  · cases links with
    | zero => exact ⟨0, Nat.zero_le _, arrivesAt_of_advance hsound hd hstands hnames hasked hdone⟩
    | succ links =>
      exact ⟨0, Nat.zero_le _, arrivesAt_of_advance hsound hd hstands hnames hasked hdone⟩
  obtain ⟨next, d', hd', rfl, hnext, hrest, hmore, hfollow⟩ :=
    arrivesAt_of_advance hsound hd hstands hnames hasked hlink
  -- The system takes the same names from the target, with points for slashes at its end.
  have hsame : properNames (steps target.toList ++ rest) =
      properNames (Path.parts target.toList ++ rest) := by
    rw [properNames_append, properNames_append, properNames_steps]
  have hsteps : ∀ name ∈ steps target.toList ++ rest, name = "." ∨ IsName name :=
    List.forall_mem_append.mpr ⟨fun _ => eq_point_or_isName_of_mem_steps, hrest⟩
  have hasked' : ∀ q ∈ (v.way fewer (targetStart next target)
      (steps target.toList ++ rest)).asked, q.text.utf8ByteSize < textLimit := by
    rw [View.way_congr hsame]
    exact hmore
  obtain ⟨start, hstart, hlocation, hstands'⟩ : ∃ start : Path, v.tree.Holds start ∧
      start.names = (if isRooted target then [] else d'.names) ∧
      Stands v (targetStart next target) start.names := by
    unfold targetStart
    by_cases hrooted : isRooted target = true
    · rw [if_pos hrooted, if_pos hrooted]
      exact ⟨.root, Tree.Holds.of_root, rfl, .fromRoot rfl (by simp [Path.root])⟩
    · rw [if_neg hrooted, if_neg hrooted]
      exact ⟨d', hd', rfl, hnext⟩
  rw [← hlocation] at honward
  obtain ⟨n, hn, q, directory, hleads, hend⟩ :=
    leads_of_walk hsound hstart hstands' hsteps hasked' honward
  exact ⟨n + 1, Nat.succ_le_succ hn, q, directory, hfollow n q (hleads.congr hsame), hend⟩

/-- A straight way from the root stays there, and its end is short. -/
theorem Leads.short {q : Path} {n : Nat} (h : Leads v Fits p names n q) (hroot : p.anchor = .root)
    (hstraight : ".." ∉ p.names) (hroom : p.text.utf8ByteSize < textLimit) :
    q.anchor = .root ∧ q.text.utf8ByteSize < textLimit := by
  induction h with
  | done _ => exact ⟨hroot, hroom⟩
  | skip _ _ ih => exact ih hroot hstraight hroom
  | @up path _ _ _ _ ih =>
    have hclimb : path.climb = path.parent := by
      refine Path.ext (Path.anchor_climb path) ?_
      rw [Path.names_climb, Path.settle_up hstraight fun _ => by simp [Path.isAbsolute, hroot]]
      rfl
    rw [hclimb] at ih
    exact ih hroot (fun hmem => hstraight (List.mem_of_mem_dropLast hmem))
      ((Path.utf8ByteSize_parent_le hroot).trans_lt hroom)
  | enter hup _ hfits _ _ ih =>
    exact ih hroot (by simp [Path.child, hstraight, Ne.symm hup]) hfits.short
  | follow _ _ _ _ _ ih =>
    unfold targetStart at ih
    split at ih
    · exact ih rfl (by simp [Path.root]) (by decide)
    · exact ih hroot hstraight hroom

/-- What lies at a location is found there. -/
theorem Lies.walk {directory : Path} (h : Lies t directory location node) (follow : Bool) :
    Files.walk t follow linkLimit [] location = .ok (.node location node) := by
  cases h with
  | itself hheld =>
    have hself := hheld.walk_child follow linkLimit []
    rw [List.append_nil] at hself
    rw [hself, walk_done rfl]
  | @within name _ hheld hname hentry hnode hfile =>
    rw [hheld.walk_child, walk.eq_def,
      advance_name hname.2.1 hentry.proper (Nat.not_lt.mpr hentry.short), hnode]
    cases node <;> simp_all [Node.isFile]

theorem Lies.clean {directory : Path} (h : Lies t directory location node) :
    ∀ name ∈ location, View.hasNul name = false := by
  cases h with
  | itself hheld => exact fun name hname => (hheld.entries name hname).clean
  | within hheld _ hentry _ _ =>
    intro name hname
    obtain hname | hname := List.mem_append.mp hname
    · exact (hheld.entries name hname).clean
    · exact List.mem_singleton.mp hname ▸ hentry.clean

/-- A way starts where the walk does. -/
theorem Stands.origin {base : Location} (h : v.base? p = some base) :
    Stands v p.origin base := by
  unfold View.base? at h
  unfold Path.origin
  split at h
  · rename_i habsolute
    obtain rfl := Option.some.inj h
    rw [if_pos habsolute]
    exact .fromRoot rfl (by simp [Path.root])
  · rename_i hrelative
    have hhere : Stands v .here (base.take (base.length - 0) ++ []) :=
      .fromHere rfl h rfl (by simp)
    rw [if_neg hrelative]
    simpa using hhere

/-- Where no name has a NUL character and the links are few enough, the expansion succeeds. -/
theorem expand_of_cleanEnd {q : Path} {n limit : Nat} (h : Leads v CleanEnd p names n q)
    (hn : n ≤ limit) : expand v limit [] p [⟨none, names⟩] = .ok q := by
  obtain ⟨hok, herror⟩ := expand_of_leads h limit
  cases hresult : expand v limit [] p [⟨none, names⟩] with
  | ok reached => rw [hok reached hresult]
  | error e =>
    obtain ⟨above, name, hname, hend, hnul⟩ | hlimit := herror e hresult
    · rw [hend name (by simp [Path.child])] at hnul
      contradiction
    · omega

namespace View

theorem base?_eq_none : v.base? p = none ↔ p.isAbsolute = false ∧ v.workingDir = none := by
  unfold base?
  cases p.isAbsolute <;> simp

/-- A walk starts in a directory that is there. -/
theorem Sound.base {base : Location} (hsound : v.Sound) (h : v.base? p = some base) :
    ∃ d : Path, v.tree.Holds d ∧ d.names = base := by
  unfold base? at h
  split at h
  · obtain rfl := Option.some.inj h
    exact ⟨.root, .of_root, rfl⟩
  · exact hsound.held base h

/-- A path that the system finds a node at, with everything on the way within its reach. -/
structure Locates (v : View) (start : Path) (location : Location) (node : Node) : Prop where
  found : v.node? start.text = .ok (location, node)
  inReach : v.InReach start
  room : ("/" ++ "/".intercalate location).utf8ByteSize < textLimit

instance (v : View) (start : Path) (location : Location) (node : Node) :
    Decidable (v.Locates start location node) :=
  decidable_of_iff (v.node? start.text = .ok (location, node) ∧ v.InReach start ∧
      ("/" ++ "/".intercalate location).utf8ByteSize < textLimit)
    ⟨fun ⟨found, inReach, room⟩ => ⟨found, inReach, room⟩, fun h => ⟨h.found, h.inReach, h.room⟩⟩

/-- What a path expands to is made canonical as the location that it stands for. -/
theorem resolve_of_expand {start canonical q : Path} (hsound : v.Sound)
    (hexpand : expand v v.expansionLimit [] start.origin [⟨none, start.names⟩] = .ok q)
    (hstands : Stands v q location) (hroot : canonical.anchor = .root)
    (hnames : canonical.names = location) (hnul : hasNul canonical.text = false)
    (hnode : v.node? canonical.text ≠ .error .tooManyLinks) : v.resolve start = .ok canonical := by
  obtain ⟨absolute, habsolute, hanchor, hcollapse⟩ := hstands.canonical hsound
  obtain rfl : absolute.collapse = canonical :=
    Path.ext (hanchor.trans hroot.symm) (hcollapse.trans hnames.symm)
  exact resolve_eq_ok.mpr ⟨q, absolute, hexpand, habsolute, rfl, hnul, hnode⟩

/-- A path that the system finds a node at, all on the way within reach, leads there. -/
theorem leads_of_node? {start : Path} (hsound : v.Sound)
    (hfound : v.node? start.text = .ok (location, node)) (hreach : v.InReach start) :
    ∃ n ≤ linkLimit, ∃ q directory, Leads v Fits start.origin start.names n q ∧
      Stands v q location ∧ Lies v.tree directory location node := by
  have hroom := room_of_node? hfound
  have hfind := node?_eq_ok.mp hfound
  obtain ⟨base, hbase⟩ : ∃ base, v.base? start = some base := by
    rw [← Option.isSome_iff_exists, Option.isSome_iff_ne_none]
    intro hnone
    obtain ⟨hrelative, hnone⟩ := base?_eq_none.mp hnone
    rw [find_nowhere hrelative hnone hroom] at hfind
    contradiction
  obtain ⟨d, hd, rfl⟩ := hsound.base hbase
  have hwalk : walk v.tree true linkLimit d.names start.names = .ok (.node location node) := by
    rw [← find_path hbase hroom, hfind]
  have hnames : ∀ name ∈ start.names, name = "." ∨ IsName name :=
    fun name hname => .inr (start.isName name hname)
  exact leads_of_walk hsound hd (Stands.origin hbase) hnames hreach hwalk

/-- From the root, a way on which everything can be asked for ends where it can be, too. -/
theorem locates_of_isAbsolute {start : Path} (hsound : v.Sound) (habsolute : start.isAbsolute = true)
    (hfound : v.node? start.text = .ok (location, node)) (hreach : v.InReach start) :
    v.Locates start location node := by
  refine ⟨hfound, hreach, ?_⟩
  obtain ⟨n, -, q, directory, hleads, hstands, -⟩ := leads_of_node? hsound hfound hreach
  rw [Path.origin, if_pos habsolute] at hleads
  obtain ⟨hroot, hroom⟩ := hleads.short rfl (by simp [Path.root]) (by decide)
  cases hstands with
  | fromRoot _ _ => rwa [Path.text_of_root hroot] at hroom
  | fromHere hhere _ _ _ =>
    rw [hroot] at hhere
    contradiction

/-- A path that leads to a node has the location of that node for its canonical form. -/
theorem resolve_of_locates {start : Path} (hsound : v.Sound)
    (h : v.Locates start location node) : ∃ canonical directory : Path,
      v.resolve start = .ok canonical ∧ canonical.anchor = .root ∧ canonical.names = location ∧
        Lies v.tree directory location node ∧ v.node? canonical.text = .ok (location, node) := by
  obtain ⟨n, hn, q, directory, hleads, hq, hlies⟩ := leads_of_node? hsound h.found h.inReach
  have hmany : linkLimit ≤ v.expansionLimit := by
    unfold View.expansionLimit linkLimit textLimit
    omega
  have hexpand := expand_of_cleanEnd (hleads.mono fun _ => Fits.cleanEnd) (Nat.le_trans hn hmany)
  have hisName : ∀ name ∈ location, IsName name := by
    obtain ⟨absolute, -, -, rfl⟩ := hq.canonical hsound
    exact absolute.collapse.isName
  let canonical : Path := ⟨.root, location, hisName⟩
  have hnode : v.node? canonical.text = .ok (location, node) := by
    have htext : canonical.text.utf8ByteSize < textLimit := by
      rw [Path.text_of_root rfl]
      exact h.room
    rw [node?_eq_ok, find_text rfl htext, hlies.walk]
  have hnul : hasNul canonical.text = false := Path.hasNul_text rfl hlies.clean
  have hresolve : v.resolve start = .ok canonical :=
    resolve_of_expand hsound hexpand hq rfl rfl hnul (by simp [hnode])
  exact ⟨canonical, directory, hresolve, rfl, rfl, hlies, hnode⟩

end View

end Arriving

end BuildLauncher.Files

import BuildLauncher.Files.Resolve
import BuildLauncher.Proofs.Steps

/-!
# The way of a path

A path leads from name to name, and by a link on along its target and the names that are left. Along
its way it can be told what is asked for and where it ends. Names lead to one end only
(`Leads.unique`), and what lies between them does not count (`Leads.congr`).
-/
namespace BuildLauncher.Files

/-- Where the names of a path are followed from. -/
def Path.origin (p : Path) : Path := if p.isAbsolute then .root else .here

/-- Where the target of a link in a directory is followed from. -/
def targetStart (directory : Path) (target : String) : Path :=
  if isRooted target then .root else directory

/-- The paths that are asked for on a way, and its end. -/
structure Way where
  asked : List Path
  reached : Option Path

/-- The way along names up to the next link, and `further` from there. -/
def View.wayUntil (v : View) (further : Path → List String → Way) (path : Path) :
    List String → Way
  | [] => ⟨[], some path⟩
  | name :: rest =>
    if name = ".." then v.wayUntil further path.climb rest
    else if h : IsName name then
      let next := path.child name h
      let onward := match v.linkTarget? next with
        | some target => further (targetStart path target) (Path.parts target.toList ++ rest)
        | none => v.wayUntil further next rest
      ⟨next :: onward.asked, onward.reached⟩
    else v.wayUntil further path rest

/-- The way along names over at most `links` links. -/
def View.way (v : View) : Nat → Path → List String → Way
  | 0 => v.wayUntil fun _ _ => ⟨[], none⟩
  | links + 1 => v.wayUntil (v.way links)

theorem isName_up : IsName ".." := by decide

theorem Path.child_inj {p q : Path} {name other : String} {h : IsName name} {ho : IsName other}
    (heq : p.child name h = q.child other ho) : p = q ∧ name = other := by
  have hnames : p.names ++ [name] = q.names ++ [other] := congrArg Path.names heq
  obtain ⟨hp, hname⟩ := List.append_inj' hnames rfl
  have hanchor := congrArg Path.anchor heq
  exact ⟨Path.ext hanchor hp, (List.cons.inj hname).1⟩

/-- From a path, names lead over so many links to another path. All that is asked for is good. -/
inductive Leads (v : View) (good : Path → Prop) : Path → List String → Nat → Path → Prop
  | done (path : Path) : Leads v good path [] 0 path
  | skip {path q : Path} {name : String} {rest : List String} {n : Nat} (hname : ¬IsName name)
      (h : Leads v good path rest n q) : Leads v good path (name :: rest) n q
  | up {path q : Path} {rest : List String} {n : Nat}
      (h : Leads v good path.climb rest n q) : Leads v good path (".." :: rest) n q
  | enter {path q : Path} {name : String} {rest : List String} {n : Nat} (hup : name ≠ "..")
      (hname : IsName name) (hgood : good (path.child name hname))
      (hlink : v.linkTarget? (path.child name hname) = none)
      (h : Leads v good (path.child name hname) rest n q) : Leads v good path (name :: rest) n q
  | follow {path q : Path} {name target : String} {rest : List String} {n : Nat} (hup : name ≠ "..")
      (hname : IsName name) (hgood : good (path.child name hname))
      (hlink : v.linkTarget? (path.child name hname) = some target)
      (h : Leads v good (targetStart path target) (Path.parts target.toList ++ rest) n q) :
      Leads v good path (name :: rest) (n + 1) q

section Leading

variable {v : View} {good better : Path → Prop} {path p q : Path} {name target : String}
  {names rest more : List String} {m n : Nat}

namespace Leads

theorem mono (h : Leads v good path names n q) (hgood : ∀ p, good p → better p) :
    Leads v better path names n q := by
  induction h with
  | done path => exact .done path
  | skip hname _ ih => exact .skip hname ih
  | up _ ih => exact .up ih
  | enter hup hname hasked hlink _ ih => exact .enter hup hname (hgood _ hasked) hlink ih
  | follow hup hname hasked hlink _ ih => exact .follow hup hname (hgood _ hasked) hlink ih

theorem of_skip (hname : ¬IsName name) (h : Leads v good path (name :: rest) n q) :
    Leads v good path rest n q := by
  cases h with
  | skip _ h => exact h
  | up _ => exact absurd isName_up hname
  | enter _ h _ _ _ | follow _ h _ _ _ => exact absurd h hname

theorem of_up (h : Leads v good path (".." :: rest) n q) : Leads v good path.climb rest n q := by
  cases h with
  | skip hname _ => exact absurd isName_up hname
  | up h => exact h
  | enter hup _ _ _ _ | follow hup _ _ _ _ => exact absurd rfl hup

theorem of_enter (hup : name ≠ "..") (hname : IsName name)
    (hlink : v.linkTarget? (path.child name hname) = none)
    (h : Leads v good path (name :: rest) n q) :
    Leads v good (path.child name hname) rest n q := by
  cases h with
  | skip hskip _ => exact absurd hname hskip
  | up _ => exact absurd rfl hup
  | enter _ _ _ _ h => exact h
  | follow _ _ _ hsome _ => simp [hlink] at hsome

theorem of_follow (hup : name ≠ "..") (hname : IsName name)
    (hlink : v.linkTarget? (path.child name hname) = some target)
    (h : Leads v good path (name :: rest) n q) : ∃ m, n = m + 1 ∧
      Leads v good (targetStart path target) (Path.parts target.toList ++ rest) m q := by
  cases h with
  | skip hskip _ => exact absurd hname hskip
  | up _ => exact absurd rfl hup
  | enter _ _ _ hnone _ => simp [hlink] at hnone
  | follow _ _ _ hsome h =>
    obtain rfl := Option.some.inj (hlink.symm.trans hsome)
    exact ⟨_, rfl, h⟩

theorem good_next (hup : name ≠ "..") (hname : IsName name)
    (h : Leads v good path (name :: rest) n q) : good (path.child name hname) := by
  cases h with
  | skip hskip _ => exact absurd hname hskip
  | up _ => exact absurd rfl hup
  | enter _ _ hgood _ _ | follow _ _ hgood _ _ => exact hgood

/-- Names lead to one end only. -/
theorem unique (h : Leads v good path names n q) (hp : Leads v good path names m p) :
    n = m ∧ q = p := by
  induction h generalizing m with
  | done path =>
    cases hp
    exact ⟨rfl, rfl⟩
  | skip hname _ ih => exact ih (hp.of_skip hname)
  | up _ ih => exact ih hp.of_up
  | enter hup hname _ hlink _ ih => exact ih (hp.of_enter hup hname hlink)
  | follow hup hname _ hlink _ ih =>
    obtain ⟨k, rfl, hmore⟩ := hp.of_follow hup hname hlink
    exact ⟨congrArg (· + 1) (ih hmore).1, (ih hmore).2⟩

/-- On the way along names there is an end of those that come first. -/
theorem split (h : Leads v good path (names ++ more) n q) : ∃ i j p, i + j = n ∧
    Leads v good path names i p ∧ Leads v good p more j q := by
  generalize hall : names ++ more = all at h
  induction h generalizing names with
  | done path =>
    obtain ⟨rfl, rfl⟩ := List.append_eq_nil_iff.mp hall
    exact ⟨0, 0, path, rfl, .done path, .done path⟩
  | skip hname h ih =>
    obtain _ | ⟨name, names⟩ := names
    · obtain rfl : more = _ := hall
      exact ⟨0, _, _, Nat.zero_add _, .done _, .skip hname h⟩
    · obtain ⟨rfl, hrest⟩ := List.cons.inj hall
      obtain ⟨i, j, p, hn, hfirst, hmore⟩ := ih hrest
      exact ⟨i, j, p, hn, .skip hname hfirst, hmore⟩
  | up h ih =>
    obtain _ | ⟨name, names⟩ := names
    · obtain rfl : more = _ := hall
      exact ⟨0, _, _, Nat.zero_add _, .done _, .up h⟩
    · obtain ⟨rfl, hrest⟩ := List.cons.inj hall
      obtain ⟨i, j, p, hn, hfirst, hmore⟩ := ih hrest
      exact ⟨i, j, p, hn, .up hfirst, hmore⟩
  | enter hup hname hgood hlink h ih =>
    obtain _ | ⟨name, names⟩ := names
    · obtain rfl : more = _ := hall
      exact ⟨0, _, _, Nat.zero_add _, .done _, .enter hup hname hgood hlink h⟩
    · obtain ⟨rfl, hrest⟩ := List.cons.inj hall
      obtain ⟨i, j, p, hn, hfirst, hmore⟩ := ih hrest
      exact ⟨i, j, p, hn, .enter hup hname hgood hlink hfirst, hmore⟩
  | follow hup hname hgood hlink h ih =>
    obtain _ | ⟨name, names⟩ := names
    · obtain rfl : more = _ := hall
      exact ⟨0, _, _, Nat.zero_add _, .done _, .follow hup hname hgood hlink h⟩
    · obtain ⟨rfl, rfl⟩ := List.cons.inj hall
      obtain ⟨i, j, p, rfl, hfirst, hmore⟩ := ih (List.append_assoc ..)
      exact ⟨i + 1, j, p, Nat.add_right_comm .., .follow hup hname hgood hlink hfirst, hmore⟩

/-- On the way along names there is an end of the first. -/
theorem split_first (h : Leads v good path (name :: rest) n q) : ∃ i j p, i + j = n ∧
    Leads v good path [name] i p ∧ Leads v good p rest j q := by
  have hfirst : Leads v good path ([name] ++ rest) n q := h
  exact hfirst.split

theorem skips {skipped : List String} (hskipped : ∀ s ∈ skipped, ¬IsName s)
    (h : Leads v good path names n q) : Leads v good path (skipped ++ names) n q := by
  induction skipped with
  | nil => exact h
  | cons first others ih =>
    obtain ⟨hfirst, hothers⟩ := List.forall_mem_cons.mp hskipped
    exact .skip hfirst (ih hothers)

end Leads

/-- What is left of names for a walk: only they count, not what is skipped between them. -/
def properNames (names : List String) : List String := names.filter fun s => decide (IsName s)

theorem properNames_cons (hname : IsName name) :
    properNames (name :: rest) = name :: properNames rest :=
  List.filter_cons_of_pos (decide_eq_true hname)

theorem properNames_skip (hname : ¬IsName name) :
    properNames (name :: rest) = properNames rest :=
  List.filter_cons_of_neg (by simpa using hname)

theorem properNames_append : properNames (names ++ more) = properNames names ++ properNames more :=
  List.filter_append ..

/-- The next name of the one list is the next of the other, after what is skipped there. -/
theorem exists_next (hname : IsName name) (h : properNames (name :: rest) = properNames more) :
    ∃ skipped others, more = skipped ++ name :: others ∧ (∀ s ∈ skipped, ¬IsName s) ∧
      properNames rest = properNames others := by
  rw [properNames_cons hname] at h
  obtain ⟨skipped, others, rfl, hskipped, -, hothers⟩ := List.filter_eq_cons_iff.mp h.symm
  exact ⟨skipped, others, rfl, by simpa using hskipped, hothers.symm⟩

theorem Leads.congr (h : Leads v good path names n q) (hnames : properNames names = properNames more) :
    Leads v good path more n q := by
  induction h generalizing more with
  | done path =>
    have hall : ∀ s ∈ more, ¬IsName s := by
      simpa [properNames] using hnames.symm
    simpa using Leads.skips hall (.done path)
  | skip hname _ ih => exact ih (properNames_skip hname ▸ hnames)
  | up _ ih =>
    obtain ⟨skipped, others, rfl, hskipped, hothers⟩ := exists_next isName_up hnames
    exact .skips hskipped (.up (ih hothers))
  | enter hup hname hgood hlink _ ih =>
    obtain ⟨skipped, others, rfl, hskipped, hothers⟩ := exists_next hname hnames
    exact .skips hskipped (.enter hup hname hgood hlink (ih hothers))
  | follow hup hname hgood hlink _ ih =>
    obtain ⟨skipped, others, rfl, hskipped, hothers⟩ := exists_next hname hnames
    refine .skips hskipped (.follow hup hname hgood hlink (ih ?_))
    rw [properNames_append, properNames_append, hothers]


section Ways

variable {further : Path → List String → Way} {links : Nat}

theorem View.wayUntil_skip (hname : ¬IsName name) :
    v.wayUntil further path (name :: rest) = v.wayUntil further path rest := by
  have hup : name ≠ ".." := by
    rintro rfl
    exact hname isName_up
  rw [wayUntil, if_neg hup, dif_neg hname]

theorem View.wayUntil_up :
    v.wayUntil further path (".." :: rest) = v.wayUntil further path.climb rest := by
  rw [wayUntil, if_pos rfl]

theorem View.wayUntil_enter (hup : name ≠ "..") (hname : IsName name)
    (hlink : v.linkTarget? (path.child name hname) = none) :
    v.wayUntil further path (name :: rest) =
      ⟨path.child name hname :: (v.wayUntil further (path.child name hname) rest).asked,
        (v.wayUntil further (path.child name hname) rest).reached⟩ := by
  rw [wayUntil, if_neg hup, dif_pos hname]
  simp only [hlink]

theorem View.wayUntil_follow (hup : name ≠ "..") (hname : IsName name)
    (hlink : v.linkTarget? (path.child name hname) = some target) :
    v.wayUntil further path (name :: rest) =
      ⟨path.child name hname ::
        (further (targetStart path target) (Path.parts target.toList ++ rest)).asked,
        (further (targetStart path target) (Path.parts target.toList ++ rest)).reached⟩ := by
  rw [wayUntil, if_neg hup, dif_pos hname]
  simp only [hlink]

/-- Names lead on up to the next link if what is further does. -/
theorem leads_of_wayUntil (hfurther : ∀ path names, (∀ p ∈ (further path names).asked, good p) →
      (further path names).reached = some q → ∃ n, n + 1 ≤ links ∧ Leads v good path names n q)
    (hgood : ∀ p ∈ (v.wayUntil further path names).asked, good p)
    (h : (v.wayUntil further path names).reached = some q) :
    ∃ n ≤ links, Leads v good path names n q := by
  induction names generalizing path with
  | nil =>
    obtain rfl := Option.some.inj h
    exact ⟨0, Nat.zero_le _, .done _⟩
  | cons name rest ih =>
    by_cases hup : name = ".."
    · subst hup
      rw [View.wayUntil_up] at hgood h
      obtain ⟨n, hn, hleads⟩ := ih hgood h
      exact ⟨n, hn, .up hleads⟩
    by_cases hname : IsName name
    · cases hlink : v.linkTarget? (path.child name hname) with
      | none =>
        rw [View.wayUntil_enter hup hname hlink] at hgood h
        obtain ⟨hfirst, hmore⟩ := List.forall_mem_cons.mp hgood
        obtain ⟨n, hn, hleads⟩ := ih hmore h
        exact ⟨n, hn, .enter hup hname hfirst hlink hleads⟩
      | some target =>
        rw [View.wayUntil_follow hup hname hlink] at hgood h
        obtain ⟨hfirst, hmore⟩ := List.forall_mem_cons.mp hgood
        obtain ⟨n, hn, hleads⟩ := hfurther _ _ hmore h
        exact ⟨n + 1, hn, .follow hup hname hfirst hlink hleads⟩
    · rw [View.wayUntil_skip hname] at hgood h
      obtain ⟨n, hn, hleads⟩ := ih hgood h
      exact ⟨n, hn, .skip hname hleads⟩

/-- A way that has an end leads to it. -/
theorem leads_of_reached (hgood : ∀ p ∈ (v.way links path names).asked, good p)
    (h : (v.way links path names).reached = some q) :
    ∃ n ≤ links, Leads v good path names n q := by
  induction links generalizing path names with
  | zero => exact leads_of_wayUntil (fun _ _ _ hnone => by contradiction) hgood h
  | succ links ih =>
    have hfurther : ∀ path names, (∀ p ∈ (v.way links path names).asked, good p) →
        (v.way links path names).reached = some q →
          ∃ n, n + 1 ≤ links + 1 ∧ Leads v good path names n q := by
      intro path names hgood h
      obtain ⟨n, hn, hleads⟩ := ih hgood h
      exact ⟨n, Nat.succ_le_succ hn, hleads⟩
    exact leads_of_wayUntil hfurther hgood h

theorem View.wayUntil_congr {names more : List String}
    (hfurther : ∀ path names more, properNames names = properNames more →
      further path names = further path more)
    (h : properNames names = properNames more) (path : Path) :
    v.wayUntil further path names = v.wayUntil further path more := by
  -- Both are the way along the proper names alone.
  have hproper (path : Path) (names : List String) :
      v.wayUntil further path names = v.wayUntil further path (properNames names) := by
    induction names generalizing path with
    | nil => rfl
    | cons name rest ih =>
      by_cases hname : IsName name
      · rw [properNames_cons hname]
        by_cases hup : name = ".."
        · subst hup
          rw [wayUntil_up, wayUntil_up, ih]
        cases hlink : v.linkTarget? (path.child name hname) with
        | none => rw [wayUntil_enter hup hname hlink, wayUntil_enter hup hname hlink, ih]
        | some target =>
          have hmore : properNames (Path.parts target.toList ++ rest) =
              properNames (Path.parts target.toList ++ properNames rest) := by
            simp [properNames]
          rw [wayUntil_follow hup hname hlink, wayUntil_follow hup hname hlink,
            hfurther _ _ _ hmore]
      · rw [wayUntil_skip hname, properNames_skip hname, ih]
  rw [hproper path names, hproper path more, h]

theorem View.way_congr (h : properNames names = properNames more) (links : Nat) (path : Path) :
    v.way links path names = v.way links path more := by
  induction links generalizing path names more with
  | zero => exact wayUntil_congr (fun _ _ _ _ => rfl) h path
  | succ links ih => exact wayUntil_congr (fun path _ _ hsame => ih hsame path) h path

end Ways

end Leading

end BuildLauncher.Files

import BuildLauncher.Proofs.Files.Absolute

/-!
# Paths without links

A path is read back from its text, and a walk along it takes its names one after the other. Below a
file nothing is found, and above one there is a directory. A path from the root that holds no link
is its own canonical form (`Physical.resolve`).
-/
namespace BuildLauncher.Files

namespace Path

variable {p q : Path} {names : List String}

theorem parts_slash (s : List Char) : parts ('/' :: s) = "" :: parts s := by
  simp [parts, List.splitOn_cons_eq_if_modifyHead]

theorem parts_intercalate (h : ∀ n ∈ names, IsName n) (hne : names ≠ []) :
    parts ("/".intercalate names).toList = names := by
  have hslash : ∀ l ∈ names.map String.toList, '/' ∉ l := by
    intro l hl
    obtain ⟨n, hn, rfl⟩ := List.mem_map.mp hl
    exact (h n hn).2.2
  rw [parts, String.toList_intercalate]
  refine (congrArg _ (List.splitOn_intercalate '/' hslash (by simpa using hne))).trans ?_
  simp [Function.comp_def]

theorem filter_isName (h : ∀ n ∈ names, IsName n) :
    names.filter (fun n => decide (IsName n)) = names :=
  List.filter_eq_self.mpr fun n hn => decide_eq_true (h n hn)

theorem head?_intercalate (h : ∀ n ∈ names, IsName n) :
    ("/".intercalate names).toList.head? ≠ some '/' := by
  cases names with
  | nil => simp
  | cons n rest =>
    obtain ⟨hne, -, hslash⟩ := h n (by simp)
    obtain ⟨c, cs, hcs⟩ := List.exists_cons_of_ne_nil (mt String.toList_eq_nil_iff.mp hne)
    rw [hcs] at hslash
    cases rest <;> simp_all [String.intercalate_cons_cons] <;> grind

theorem text_of_anchor_ne (h : p.anchor ≠ .here) :
    p.text = p.anchor.text ++ "/".intercalate p.names := by
  simp [text, h]

theorem text_of_root (h : p.anchor = .root) : p.text = "/" ++ "/".intercalate p.names := by
  rw [text_of_anchor_ne (by simp [h]), h, Anchor.text]

theorem toList_text_of_root (h : p.anchor = .root) :
    p.text.toList = '/' :: ("/".intercalate p.names).toList := by
  rw [text_of_root h, String.toList_append]
  rfl

/-- A path from the root is read back from its text. -/
theorem ofText_text (h : p.anchor = .root) : ofText p.text = p := by
  apply ext
  · change anchorOf p.text.toList = p.anchor
    have hhead := head?_intercalate p.isName
    rw [h, toList_text_of_root h]
    cases hs : ("/".intercalate p.names).toList with
    | nil => rfl
    | cons c cs =>
      rw [hs, List.head?_cons, ne_eq, Option.some.injEq] at hhead
      unfold anchorOf
      split <;> simp_all
  · change (parts p.text.toList).filter _ = p.names
    rw [toList_text_of_root h, parts_slash]
    by_cases hne : p.names = []
    · rw [hne]
      decide
    · rw [parts_intercalate p.isName hne, List.filter_cons_of_neg (by decide)]
      exact filter_isName p.isName

/-- The text of names goes on from that of all but the last, and ends with the last. -/
theorem intercalate_concat (names : List String) (last : String) : ∃ middle,
    "/".intercalate (names ++ [last]) = "/".intercalate names ++ (middle ++ last) := by
  by_cases hne : names = []
  · exact ⟨"", by simp [hne]⟩
  · exact ⟨"/", by
      rw [String.intercalate_append_of_ne_nil hne (by simp)]
      simp [String.append_assoc]⟩

theorem getLast?_intercalate (h : ∀ n ∈ names, IsName n) :
    ("/".intercalate names).toList.getLast? ≠ some '/' := by
  obtain rfl | ⟨init, last, rfl⟩ := List.eq_nil_or_concat' names
  · simp
  · obtain ⟨hempty, -, hslash⟩ := h last (by simp)
    obtain ⟨middle, hmiddle⟩ := intercalate_concat init last
    have hlast : last.toList ≠ [] := mt String.toList_eq_nil_iff.mp hempty
    rw [hmiddle, ← String.append_assoc, String.toList_append,
      List.getLast?_append_of_ne_nil _ hlast]
    exact fun hl => hslash (List.mem_of_getLast? hl)

theorem toList_intercalate_ne_nil (h : ∀ n ∈ names, IsName n) (hne : names ≠ []) :
    ("/".intercalate names).toList ≠ [] := by
  obtain rfl | ⟨init, last, rfl⟩ := List.eq_nil_or_concat' names
  · contradiction
  · obtain ⟨middle, hmiddle⟩ := intercalate_concat init last
    simp [hmiddle, (h last (by simp)).1]

/-- A walk along a path from the root takes its names. -/
theorem steps_text (h : p.anchor = .root) : steps p.text.toList = p.names := by
  have hfilter : p.names.filter (· ≠ "") = p.names :=
    List.filter_eq_self.mpr fun n hn => decide_eq_true (p.isName n hn).1
  rw [steps, toList_text_of_root h, parts_slash]
  by_cases hne : p.names = []
  · rw [hne]
    decide
  · rw [parts_intercalate p.isName hne, List.filter_cons_of_neg (by simp), hfilter]
    have hend : ('/' :: ("/".intercalate p.names).toList).getLast? ≠ some '/' := by
      rw [List.getLast?_cons_of_ne_nil (toList_intercalate_ne_nil p.isName hne)]
      exact getLast?_intercalate p.isName
    rw [decide_eq_false hend]
    rfl

/-- The text of a path goes on from that of its parent. -/
theorem text_eq_parent_append (h : p.anchor = .root) : ∃ rest, p.text = p.parent.text ++ rest := by
  have hparent : p.parent.anchor = .root := h
  rw [text_of_root h, text_of_root hparent]
  change ∃ rest, _ = "/" ++ "/".intercalate p.names.dropLast ++ rest
  obtain hnil | ⟨init, last, hnames⟩ := List.eq_nil_or_concat' p.names
  · exact ⟨"", by simp [hnil]⟩
  · obtain ⟨middle, hmiddle⟩ := intercalate_concat init last
    exact ⟨middle ++ last, by rw [hnames, hmiddle, List.dropLast_concat, String.append_assoc]⟩

theorem join_join (p q r : Path) : (p.join q).join r = p.join (q.join r) := by
  unfold join isAbsolute
  apply ext <;> grind

theorem ancestors_eq_cons (hne : p.names ≠ []) : p.ancestors = p :: p.parent.ancestors := by
  have hpos : 0 < p.names.length := List.length_pos_of_ne_nil hne
  have hlength : p.parent.names.length + 1 = p.names.length := by
    simp only [parent, List.length_dropLast]
    omega
  rw [ancestors, List.range_succ_eq_map, List.map_cons, List.map_map, ancestors, hlength]
  refine congrArg₂ List.cons (ext rfl (by simp)) (List.map_congr_left fun n hn => ext rfl ?_)
  change p.names.take (p.names.length - (n + 1)) = p.names.dropLast.take (p.parent.names.length - n)
  rw [List.dropLast_eq_take, List.take_take]
  congr 1
  omega

theorem utf8ByteSize_parent_le (h : p.anchor = .root) :
    p.parent.text.utf8ByteSize ≤ p.text.utf8ByteSize := by
  obtain ⟨rest, hrest⟩ := text_eq_parent_append h
  rw [hrest, String.utf8ByteSize_append]
  exact Nat.le_add_right _ _

end Path

section Walking

variable {t : Tree} {location : Location} {names more : List String} {fault : Fault}

/-- Why a walk that got to its end goes no further. -/
def stop? : Except Fault Place → Option Fault
  | .error fault => some fault
  | .ok (.vacant _) => some .notFound
  | .ok (.node _ node) => if node.isDirectory then none else some .notDirectory

theorem advance_append_of_link {directory : Location} {target : String} {rest : List String}
    (ha : advance t true location names = .ok (.link directory target rest)) :
    advance t true location (names ++ more) = .ok (.link directory target (rest ++ more)) := by
  fun_induction advance t true location names with
  | case2 location rest ih => simpa [advance] using ih ha
  | case3 location rest _ ih => simpa [advance] using ih ha
  | case7 location name rest hd hp hl next hn ih =>
    rw [List.cons_append, advance_name hd hp hl, hn]
    exact ih ha
  | case9 location name rest hd hp hl next found hn hend =>
    rw [List.cons_append, advance_name hd hp hl, hn]
    simp_all
  | case1 | case4 | case5 | case6 | case8 | case10 | case11 => simp at ha

theorem advance_append_of_done {place : Place} (hmore : more ≠ [])
    (ha : advance t true location names = .ok (.done place))
    (hstop : stop? (.ok place) = some fault) :
    advance t true location (names ++ more) = .error fault := by
  fun_induction advance t true location names with
  | case1 location =>
    obtain rfl : Place.node location .directory = place := by simpa using ha
    simp [stop?, Node.isDirectory] at hstop
  | case2 location rest ih => simpa [advance] using ih ha
  | case3 location rest _ ih => simpa [advance] using ih ha
  | case5 location name hd hp hl next hn =>
    obtain rfl : Place.vacant next = place := by simpa using ha
    rw [List.cons_append, advance_name hd hp hl, hn]
    simpa [stop?, hmore] using hstop
  | case7 location name rest hd hp hl next hn ih =>
    rw [List.cons_append, advance_name hd hp hl, hn]
    exact ih ha
  | case8 location name rest hd hp hl next found hn hend => simp at hend
  | case10 location name hd hp hl next node hnd hnl hn =>
    obtain rfl : Place.node next node = place := by simpa using ha
    rw [List.cons_append, advance_name hd hp hl, hn]
    cases node <;> simp_all [stop?, Node.isDirectory]
  | case4 | case6 | case9 | case11 => simp at ha

theorem advance_append_of_error (ha : advance t true location names = .error fault) :
    advance t true location (names ++ more) = .error fault := by
  fun_induction advance t true location names with
  | case2 location rest ih => simpa [advance] using ih ha
  | case3 location rest _ ih => simpa [advance] using ih ha
  | case4 location name rest hd hp hl => simpa [advance, hd, hp, hl] using ha
  | case6 location name rest hd hp hl next hn hrest =>
    rw [List.cons_append, advance_name hd hp hl, hn]
    simpa [hrest] using ha
  | case7 location name rest hd hp hl next hn ih =>
    rw [List.cons_append, advance_name hd hp hl, hn]
    exact ih ha
  | case11 location name rest hd hp hl next node hnd hnl hn hrest =>
    rw [List.cons_append, advance_name hd hp hl, hn]
    cases node <;> simp_all
  | case1 | case5 | case8 | case9 | case10 => simp at ha

/-- A walk that stops does so whatever names come after. -/
theorem walk_append (hmore : more ≠ []) (links : Nat)
    (hstop : stop? (walk t true links location names) = some fault) :
    walk t true links location (names ++ more) = .error fault := by
  fun_induction walk t true links location names with
  | case1 links location names fault' ha =>
    obtain rfl := Option.some.inj hstop
    rw [walk.eq_def, advance_append_of_error ha]
  | case2 links location names place ha =>
    rw [walk.eq_def, advance_append_of_done hmore ha hstop]
  | case3 location names directory target rest ha =>
    obtain rfl := Option.some.inj hstop
    rw [walk.eq_def, advance_append_of_link ha]
  | case4 location names directory target rest ha links start ih =>
    rw [walk.eq_def, advance_append_of_link ha]
    simpa only [List.append_assoc] using ih hstop

theorem eq_directory_of_stop?_eq_none {found : Except Fault Place} (h : stop? found = none) :
    ∃ location, found = .ok (.node location .directory) := by
  unfold stop? at h
  split at h <;> simp_all
  rename_i location node
  cases node <;> simp_all [Node.isDirectory]

end Walking

namespace View

variable {v : View} {p q : Path} {names : List String}

theorem find_text (hroot : p.anchor = .root) (hroom : p.text.utf8ByteSize < textLimit)
    (follow : Bool) : v.find follow p.text = walk v.tree follow linkLimit [] p.names := by
  have hlist := Path.toList_text_of_root hroot
  have hne : p.text ≠ "" := by
    intro h
    simp [h] at hlist
  have hrooted : isRooted p.text = true := by simp [isRooted, hlist]
  rw [find, if_neg (by omega), if_neg hne, if_pos hrooted, Path.steps_text hroot]

theorem isFile_iff : v.isFile p = .ok true ↔
    hasNul p.text = false ∧ ∃ location node, v.node? p.text = .ok (location, node) ∧
      node.isFile = true := by
  unfold isFile test
  cases hasNul p.text with
  | true => simp
  | false =>
    cases hnode : v.node? p.text with
    | error fault => cases fault <;> simp
    | ok found => simp [Prod.ext_iff, and_assoc]

theorem node?_eq_ok {text : String} {location : Location} {node : Node} :
    v.node? text = .ok (location, node) ↔ v.find true text = .ok (.node location node) := by
  unfold node?
  split <;> simp_all

theorem room_of_node? {text : String} {found : Location × Node} (h : v.node? text = .ok found) :
    text.utf8ByteSize < textLimit := by
  by_contra hroom
  have hlong : v.find true text = .error .nameTooLong := if_pos (by omega)
  simp [node?, hlong] at h

/-- The walk along a path to a file ends at the file. -/
theorem walk_of_isFile (hroot : p.anchor = .root) (hfile : v.isFile p = .ok true) :
    p.text.utf8ByteSize < textLimit ∧ ∃ location node, node.isFile = true ∧
      walk v.tree true linkLimit [] p.names = .ok (.node location node) := by
  obtain ⟨-, location, node, hnode, hkind⟩ := isFile_iff.mp hfile
  have hroom := room_of_node? hnode
  exact ⟨hroom, location, node, hkind, by rw [← find_text hroot hroom, node?_eq_ok.mp hnode]⟩

/-- Below a file there is nothing. -/
theorem isFile_below (hroot : p.anchor = .root) (hfile : v.isFile p = .ok true)
    (hq : q.anchor = .here) (hne : q.names ≠ [])
    (hroom : (p.join q).text.utf8ByteSize < textLimit) : v.isFile (p.join q) = .ok false := by
  obtain ⟨-, location, node, hkind, hwalk⟩ := walk_of_isFile hroot hfile
  have hstop : stop? (walk v.tree true linkLimit [] p.names) = some .notDirectory := by
    rw [hwalk]
    cases node <;> simp_all [stop?, Node.isDirectory, Node.isFile]
  have hjoin : (p.join q).anchor = .root ∧ (p.join q).names = p.names ++ q.names := by
    simp [Path.join, Path.isAbsolute, hq, hroot]
  have hfind : v.find true (p.join q).text = .error .notDirectory := by
    rw [find_text hjoin.1 hroom, hjoin.2, walk_append hne _ hstop]
  unfold isFile test node?
  rw [hfind]
  split <;> rfl

theorem names_ne_nil_of_isFile (hroot : p.anchor = .root) (hfile : v.isFile p = .ok true) :
    p.names ≠ [] := by
  intro hnil
  obtain ⟨-, location, node, hkind, hwalk⟩ := walk_of_isFile hroot hfile
  rw [hnil, walk_done rfl] at hwalk
  obtain ⟨-, rfl⟩ := Place.node.inj (Except.ok.inj hwalk)
  contradiction

/-- Above a file there is a directory. -/
theorem node?_parent (hroot : p.anchor = .root) (hfile : v.isFile p = .ok true) :
    ∃ location, v.node? p.parent.text = .ok (location, .directory) := by
  obtain ⟨hroom, location, node, -, hwalk⟩ := walk_of_isFile hroot hfile
  have hlast : p.parent.names ++ [p.names.getLast (names_ne_nil_of_isFile hroot hfile)] = p.names :=
    List.dropLast_append_getLast _
  have hnone : stop? (walk v.tree true linkLimit [] p.parent.names) = none := by
    rw [Option.eq_none_iff_forall_ne_some]
    intro fault hstop
    rw [← hlast, walk_append (List.cons_ne_nil _ _) _ hstop] at hwalk
    contradiction
  obtain ⟨above, habove⟩ := eq_directory_of_stop?_eq_none hnone
  have hroot' : p.parent.anchor = .root := hroot
  refine ⟨above, node?_eq_ok.mpr ?_⟩
  rw [find_text hroot' ((Path.utf8ByteSize_parent_le hroot).trans_lt hroom), habove]

theorem isFile_parent (hroot : p.anchor = .root) (hfile : v.isFile p = .ok true) :
    v.isFile p.parent = .ok false := by
  obtain ⟨location, hnode⟩ := node?_parent hroot hfile
  unfold isFile test
  rw [hnode]
  split <;> rfl

theorem hasNul_parent (hroot : p.anchor = .root) (hnul : hasNul p.text = false) :
    hasNul p.parent.text = false := by
  obtain ⟨rest, hrest⟩ := Path.text_eq_parent_append hroot
  simp_all [hasNul]

/-- A path from the root that no link and no pair of points leads astray. -/
structure Physical (v : View) (p : Path) : Prop where
  root : p.anchor = .root
  straight : ".." ∉ p.names
  unlinked : ∀ q ∈ p.ancestors, v.linkTarget? q = none

instance (v : View) (p : Path) : Decidable (v.Physical p) :=
  decidable_of_iff (p.anchor = .root ∧ ".." ∉ p.names ∧ ∀ q ∈ p.ancestors, v.linkTarget? q = none)
    ⟨fun ⟨root, straight, unlinked⟩ => ⟨root, straight, unlinked⟩,
      fun h => ⟨h.root, h.straight, h.unlinked⟩⟩

theorem mem_text_of_mem {name : String} {c : Char} (hname : name ∈ names) (hc : c ∈ name.toList) :
    c ∈ ("/".intercalate names).toList := by
  induction names with
  | nil => contradiction
  | cons first rest ih =>
    by_cases hrest : rest = []
    · simp_all
    · rw [String.intercalate_cons_of_ne_nil hrest]
      obtain rfl | hmem := List.mem_cons.mp hname
      · simp [hc]
      · exact String.toList_append ▸ List.mem_append_right _ (ih hmem)

theorem hasNul_of_mem {name : String} (hroot : p.anchor = .root) (hname : name ∈ p.names)
    (hnul : hasNul p.text = false) : hasNul name = false := by
  simp only [hasNul, List.contains_eq_mem, decide_eq_false_iff_not] at hnul ⊢
  intro hmem
  rw [Path.toList_text_of_root hroot] at hnul
  exact hnul (List.mem_cons_of_mem _ (mem_text_of_mem hname hmem))

/-- Along the names that are left: each leads to a path above `p`, which is no link. -/
theorem Physical.followLeg (h : v.Physical p) (hnul : hasNul p.text = false) (names : List String)
    (above : Path) (habove : above.anchor = .root) (hnames : above.names ++ names = p.names) :
    followLeg v [] above names = .ok (.reached p) := by
  induction names generalizing above with
  | nil =>
    obtain rfl : above = p := Path.ext (habove.trans h.root.symm) (by simpa using hnames)
    rfl
  | cons name rest ih =>
    have hmem : name ∈ p.names := by simp [← hnames]
    have hname := p.isName name hmem
    have hnext : (above.child name hname).names ++ rest = p.names := by simpa [Path.child] using hnames
    have hunlinked : v.linkTarget? (above.child name hname) = none :=
      h.unlinked _ (Path.mem_ancestors.mpr ⟨habove.trans h.root.symm, ⟨rest, hnext⟩⟩)
    have hup : name ≠ ".." := fun heq => h.straight (heq ▸ hmem)
    rw [Files.followLeg, if_neg hup, dif_pos hname]
    simp only [hasNul_of_mem h.root hmem hnul, Bool.false_eq_true, if_false, List.lookup_nil,
      hunlinked]
    exact ih _ habove hnext

/-- Names without a pair of points are collapsed to themselves, one after the other. -/
theorem collapse_of_straight (hstraight : ".." ∉ p.names) : p.collapse = p := by
  let step (q : Path) (name : { n // n ∈ p.names }) : Path :=
    if name.val = ".." then q.climb else q.child name.val (p.isName _ name.property)
  have hfold (names : List { n // n ∈ p.names }) (q : Path) :
      (names.foldl step q).anchor = q.anchor ∧
        (names.foldl step q).names = q.names ++ names.map (·.val) := by
    induction names generalizing q with
    | nil => simp
    | cons name rest ih =>
      have hne : name.val ≠ ".." := ne_of_mem_of_not_mem name.property hstraight
      have hstep : step q name = q.child name.val (p.isName _ name.property) := if_neg hne
      obtain ⟨hanchor, hnames⟩ := ih (step q name)
      rw [List.foldl_cons]
      refine ⟨by rw [hanchor, hstep]; rfl, ?_⟩
      rw [hnames, hstep]
      simp [Path.child]
  obtain ⟨hanchor, hnames⟩ := hfold p.names.attach ⟨p.anchor, [], by simp⟩
  refine Path.ext hanchor (hnames.trans ?_)
  simp

/-- A physical path is its own canonical form. -/
theorem Physical.resolve (h : v.Physical p) (hnul : hasNul p.text = false)
    (hloop : v.node? p.text ≠ .error .tooManyLinks) : v.resolve p = .ok p := by
  have hleg : Files.followLeg v [] Path.root p.names = .ok (.reached p) :=
    h.followLeg hnul p.names Path.root rfl rfl
  have hexpand : expand v v.expansionLimit [] Path.root [⟨none, p.names⟩] = .ok p := by
    unfold expand
    simp only [followLegs, hleg]
  have habsolute : p.isAbsolute = true := by simp [Path.isAbsolute, h.root]
  refine resolve_eq_ok.mpr ⟨p, p, ?_, if_pos habsolute, (collapse_of_straight h.straight).symm,
    hnul, hloop⟩
  rw [if_pos habsolute]
  exact hexpand

end View

end BuildLauncher.Files

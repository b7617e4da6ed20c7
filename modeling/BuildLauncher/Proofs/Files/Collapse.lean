import BuildLauncher.Proofs.Files.Absolute

/-!
# Paths without pairs of points

By names alone, a path from the root loses all its pairs of points, and any other keeps only those
with which it climbs at the start. Whether a path stays below a directory can be told from how far it
climbs and what it goes down to after that (`inside_join_iff`).
-/
namespace BuildLauncher.Files

namespace Path

section Settling

variable {names rest : List String} {name : String}

/-- Names with one more. A pair of points takes the last one away; where there is none, a path from
the root stays and any other climbs. -/
def settle (rooted : Bool) (names : List String) (name : String) : List String :=
  if name = ".." then
    match names.getLast? with
    | some last => if last = ".." then names ++ [".."] else names.dropLast
    | none => if rooted then names else names ++ [".."]
  else names ++ [name]

theorem settle_name (rooted : Bool) (hname : name ≠ "..") :
    settle rooted names name = names ++ [name] := if_neg hname

/-- Without other pairs of points, one takes the last name away. -/
theorem settle_up {rooted : Bool} (hnames : ".." ∉ names) (hne : names = [] → rooted = true) :
    settle rooted names ".." = names.dropLast := by
  unfold settle
  rw [if_pos rfl]
  obtain rfl | ⟨init, last, rfl⟩ := List.eq_nil_or_concat' names
  · simp [hne rfl]
  · have hlast : last ≠ ".." := by
      rintro rfl
      simp at hnames
    simp [hlast]

theorem settle_climb (climbs : Nat) :
    settle false (List.replicate climbs "..") ".." = List.replicate (climbs + 1) ".." := by
  unfold settle
  rw [if_pos rfl, List.replicate_succ']
  cases climbs with
  | zero => rfl
  | succ climbs => simp [List.getLast?_replicate]

/-- One name more on two paths: what climbs on the one takes names of the directory away on the
other. -/
theorem settle_beside {base : List String} (hbase : ".." ∉ base) (hrest : ".." ∉ rest)
    (climbs : Nat) (name : String) : ∃ climbs' rest', ".." ∉ rest' ∧
      settle false (List.replicate climbs ".." ++ rest) name =
        List.replicate climbs' ".." ++ rest' ∧
      settle true (base.take (base.length - climbs) ++ rest) name =
        base.take (base.length - climbs') ++ rest' := by
  have htake (n : Nat) : ".." ∉ base.take n := fun h => hbase (List.mem_of_mem_take h)
  by_cases hname : name = ".."
  · subst hname
    obtain rfl | ⟨init, last, rfl⟩ := List.eq_nil_or_concat' rest
    · refine ⟨climbs + 1, [], by simp, ?_, ?_⟩
      · simpa using settle_climb climbs
      · rw [List.append_nil, List.append_nil, settle_up (htake _) fun _ => rfl,
          List.dropLast_eq_take, List.take_take, List.length_take]
        congr 1
        omega
    · have hlast : last ≠ ".." := by
        rintro rfl
        simp at hrest
      refine ⟨climbs, init, fun h => hrest (by simp [h]), ?_, ?_⟩
      · simp [settle, ← List.append_assoc, hlast]
      · simp [settle, ← List.append_assoc, hlast]
  · refine ⟨climbs, rest ++ [name], ?_, ?_, ?_⟩
    · simp [hrest, Ne.symm hname]
    · rw [settle_name false hname, List.append_assoc]
    · rw [settle_name true hname, List.append_assoc]

theorem foldl_settle_beside {base : List String} (hbase : ".." ∉ base) (hrest : ".." ∉ rest)
    (climbs : Nat) (names : List String) : ∃ climbs' rest', ".." ∉ rest' ∧
      names.foldl (settle false) (List.replicate climbs ".." ++ rest) =
        List.replicate climbs' ".." ++ rest' ∧
      names.foldl (settle true) (base.take (base.length - climbs) ++ rest) =
        base.take (base.length - climbs') ++ rest' := by
  induction names generalizing climbs rest with
  | nil => exact ⟨climbs, rest, hrest, rfl, rfl⟩
  | cons name names ih =>
    obtain ⟨climbs', rest', hrest', hhere, hthere⟩ := settle_beside hbase hrest climbs name
    rw [List.foldl_cons, List.foldl_cons, hhere, hthere]
    exact ih hrest' climbs'

end Settling

section Collapsing

variable {p q b : Path}

theorem names_climb (p : Path) : p.climb.names = settle p.isAbsolute p.names ".." := by
  unfold climb settle
  rw [if_pos rfl]
  cases p.names.getLast? with
  | none => cases p.isAbsolute <;> rfl
  | some last => by_cases hlast : last = ".." <;> simp [hlast, child, parent]

/-- Collapsing settles the names one after the other. -/
theorem names_collapse (p : Path) : p.collapse.names = p.names.foldl (settle p.isAbsolute) [] := by
  let step (q : Path) (name : { n // n ∈ p.names }) : Path :=
    if name.val = ".." then q.climb else q.child name.val (p.isName _ name.property)
  have hfold (names : List { n // n ∈ p.names }) (q : Path) :
      (names.foldl step q).names = (names.map (·.val)).foldl (settle q.isAbsolute) q.names := by
    induction names generalizing q with
    | nil => rfl
    | cons name rest ih =>
      have hstep : (step q name).isAbsolute = q.isAbsolute ∧
          (step q name).names = settle q.isAbsolute q.names name.val := by
        by_cases hname : name.val = ".."
        · simp only [step, hname, if_true]
          exact ⟨isAbsolute_climb, names_climb q⟩
        · simp only [step, hname, if_false]
          exact ⟨rfl, (settle_name _ hname).symm⟩
      rw [List.foldl_cons, ih, hstep.1, hstep.2]
      rfl
  refine (hfold p.names.attach ⟨p.anchor, [], by simp⟩).trans ?_
  rw [List.attach_map_subtype_val]
  rfl

/-- How many levels a path climbs before it goes down. -/
def climbs (p : Path) : Nat := (p.collapse.names.takeWhile (· = "..")).length

/-- The names that a path goes down by in the end. -/
def descent (p : Path) : List String := p.collapse.names.dropWhile (· = "..")

theorem climbs_descent {n : Nat} {rest : List String} (hrest : ".." ∉ rest)
    (h : p.collapse.names = List.replicate n ".." ++ rest) : p.climbs = n ∧ p.descent = rest := by
  have htake : rest.takeWhile (· = "..") = [] ∧ rest.dropWhile (· = "..") = rest := by
    cases rest with
    | nil => exact ⟨rfl, rfl⟩
    | cons first more =>
      have hfirst : first ≠ ".." := fun heq => hrest (by simp [heq])
      simp [hfirst]
  unfold climbs descent
  rw [h]
  simp [List.takeWhile_append_of_pos, List.dropWhile_append_of_pos, List.mem_replicate, htake]

/-- No pair of points is left on a path from the root. -/
theorem straight_collapse (h : p.isAbsolute = true) : ".." ∉ p.collapse.names := by
  have hnone : ".." ∉ ([] : List String) := by simp
  obtain ⟨climbs, rest, hrest, -, hnames⟩ := foldl_settle_beside hnone hnone 0 p.names
  rw [names_collapse, h]
  simp only [List.take_nil, List.nil_append] at hnames
  rw [hnames]
  exact hrest

/-- Below a directory, a path takes away as many of its names as it climbs, and goes down from
there. -/
theorem names_collapse_join (hb : b.isAbsolute = true) (hq : q.isAbsolute = false) :
    (b.join q).collapse.names =
      b.collapse.names.take (b.collapse.names.length - q.climbs) ++ q.descent := by
  have hnone : ".." ∉ ([] : List String) := by simp
  obtain ⟨climbs, rest, hrest, hhere, hthere⟩ :=
    foldl_settle_beside (straight_collapse hb) hnone 0 q.names
  have hcollapse : q.collapse.names = List.replicate climbs ".." ++ rest := by
    rw [names_collapse, hq]
    simpa using hhere
  obtain ⟨rfl, rfl⟩ := climbs_descent hrest hcollapse
  have habsolute : (b.join q).isAbsolute = true := isAbsolute_join hb
  have hnames : (b.join q).names = b.names ++ q.names := by simp [join, hq]
  rw [names_collapse, habsolute, hnames, List.foldl_append, ← hthere]
  congr 1
  rw [names_collapse, hb]
  simp

theorem anchor_collapse_join (hq : q.isAbsolute = false) :
    (b.join q).collapse.anchor = b.collapse.anchor := by
  simp only [anchor_collapse, join, hq, Bool.false_eq_true, if_false]

end Collapsing

section Inside

variable {p q b : Path}

/-- Strictly below a path: its names and at least one more. -/
structure Below (p q : Path) : Prop where
  anchor : p.anchor = q.anchor
  goesOn : q.names <+: p.names
  strict : q.names ≠ p.names

instance (p q : Path) : Decidable (p.Below q) :=
  decidable_of_iff (p.anchor = q.anchor ∧ q.names <+: p.names ∧ q.names ≠ p.names)
    ⟨fun ⟨anchor, goesOn, strict⟩ => ⟨anchor, goesOn, strict⟩,
      fun h => ⟨h.anchor, h.goesOn, h.strict⟩⟩

/-- Strictly below a path by names alone, once all pairs of points are taken. -/
def Inside (p q : Path) : Prop := p.collapse.Below q.collapse

instance (p q : Path) : Decidable (p.Inside q) := inferInstanceAs (Decidable (Below ..))

/-- A path from the root leads below a directory if it goes on from it. Any other does if it has come
back by all the names it has climbed over, and goes down further. -/
def LeadsBelow (b q : Path) : Prop :=
  if q.isAbsolute then q.collapse.Below b
  else b.names.drop (b.names.length - q.climbs) <+: q.descent ∧
    b.names.drop (b.names.length - q.climbs) ≠ q.descent

instance (b q : Path) : Decidable (LeadsBelow b q) := inferInstanceAs (Decidable (ite ..))

/-- Names that go down without climbing. -/
structure GoesDown (q : Path) : Prop where
  relative : q.isAbsolute = false
  level : q.climbs = 0
  down : q.descent ≠ []

/-- What goes down without climbing leads below every directory. -/
theorem GoesDown.leadsBelow (h : q.GoesDown) (b : Path) : LeadsBelow b q := by
  unfold LeadsBelow
  rw [h.relative, if_neg Bool.false_ne_true, h.level, Nat.sub_zero, List.drop_length]
  exact ⟨List.nil_prefix, Ne.symm h.down⟩

/-- A path seen from a directory stays inside it exactly if it leads below it. -/
theorem inside_join_iff (hb : b.isAbsolute = true) :
    (b.join q).Inside b ↔ LeadsBelow b.collapse q := by
  unfold LeadsBelow
  cases hq : q.isAbsolute with
  | true =>
    have hjoin : b.join q = q := if_pos hq
    rw [hjoin, if_pos rfl]
    rfl
  | false =>
    rw [if_neg Bool.false_ne_true]
    generalize hlevel : b.collapse.names.length - q.climbs = level
    have hnames : (b.join q).collapse.names = b.collapse.names.take level ++ q.descent := by
      rw [names_collapse_join hb hq, hlevel]
    have hsplit : b.collapse.names.take level ++ b.collapse.names.drop level = b.collapse.names :=
      List.take_append_drop ..
    constructor
    · rintro ⟨-, hgoesOn, hstrict⟩
      rw [hnames] at hgoesOn hstrict
      nth_rewrite 1 [← hsplit] at hgoesOn hstrict
      exact ⟨(List.prefix_append_right_inj _).mp hgoesOn, fun heq => hstrict (by rw [heq])⟩
    · rintro ⟨hgoesOn, hstrict⟩
      refine ⟨anchor_collapse_join hq, ?_, ?_⟩
      · rw [hnames]
        nth_rewrite 1 [← hsplit]
        exact (List.prefix_append_right_inj _).mpr hgoesOn
      · rw [hnames]
        nth_rewrite 1 [← hsplit]
        exact fun heq => hstrict (List.append_cancel_left heq)

end Inside

end Path

/-- A canonical path has no pair of points. -/
theorem View.straight_of_resolve {v : View} {p canonical : Path}
    (h : v.resolve p = .ok canonical) : ".." ∉ canonical.names := by
  obtain ⟨absolute, habsolute, rfl⟩ := exists_collapse_of_resolve h
  exact Path.straight_collapse habsolute

end BuildLauncher.Files

import BuildLauncher.Proofs.Files.Way

/-!
# What is remembered of links

While a path is expanded, the links met so far are remembered: some with the path they lead to, some
as still being followed. What is remembered is true at every step (`Followed`), and a link that is
being followed is never met again on a way that has an end. So the expansion comes to that end
(`expand_of_leads`).
-/
namespace BuildLauncher.Files

section

variable (v : View) (good : Path → Prop)

/-- The names of one path come past another: whatever they lead to with more names is reached from
there, over no more links. -/
def Passes (path : Path) (names : List String) (next : Path) (rest : List String) : Prop :=
  ∀ more n q, Leads v good path (names ++ more) n q → ∃ m ≤ n, Leads v good next (rest ++ more) m q

/-- A link leads to a path, over so many links after itself. -/
def LinkLeads (link : Path) (n : Nat) (q : Path) : Prop :=
  ∃ (directory : Path) (name : String) (hname : IsName name), link = directory.child name hname ∧
    Leads v good directory [name] (n + 1) q

/-- Something that is asked for and good has a NUL character in its name. -/
def AsksNul : Prop :=
  ∃ (directory : Path) (name : String) (hname : IsName name),
    good (directory.child name hname) ∧ View.hasNul name = true

/-- Where a leg ends, its names come past that. -/
def Follows (links : Links) (path : Path) (names : List String) : Except Error LegEnd → Prop
  | .ok (.reached q) => Passes v good path names q []
  | .ok (.link directory next target rest) => ∃ (name : String) (hname : IsName name),
      next = directory.child name hname ∧ name ≠ ".." ∧ links.lookup next = none ∧
        v.linkTarget? next = some target ∧ Passes v good path names directory (name :: rest)
  | .ok (.circle next rest) => ∃ (directory : Path) (name : String) (hname : IsName name),
      next = directory.child name hname ∧ links.lookup next = some none ∧
        Passes v good path names directory (name :: rest)
  | .error _ => ∃ (directory : Path) (name : String) (_ : IsName name) (rest : List String),
      name ≠ ".." ∧ View.hasNul name = true ∧ Passes v good path names directory (name :: rest)

/-- Each link that has a leg has no more links ahead, on the way from `path` along the names before and
those of its leg, than it leads over itself. -/
def Ahead (path : Path) : List String → List Leg → Prop
  | _, [] => True
  | before, leg :: legs =>
    (∀ link, leg.link = some link → ∃ m n q, m ≤ n ∧ LinkLeads v good link n q ∧
      Leads v good path (before ++ leg.names) m q) ∧ Ahead path (before ++ leg.names) legs

/-- While legs are followed, the ends of links are known rightly, and each link that is not at its end
has a leg. -/
structure Followed (links : Links) (path : Path) (legs : List Leg) : Prop where
  known : ∀ link known, links.lookup link = some (some known) → ∃ n, LinkLeads v good link n known
  begun : ∀ link, links.lookup link = some none → ∃ leg ∈ legs, leg.link = some link
  ahead : Ahead v good path [] legs

end

/-- Links with the end of one more, if it is a link that has come to its end. -/
def Links.remember (links : Links) (link : Option Path) (path : Path) : Links :=
  match link with
  | some link => (link, some path) :: links
  | none => links

section Remembering

variable {v : View} {good : Path → Prop} {links : Links} {path next p q : Path}
  {name target : String} {names rest : List String} {link : Option Path} {leg : Leg}
  {legs : List Leg} {m n : Nat} {hname : IsName name}

theorem Passes.refl (path : Path) (names : List String) : Passes v good path names path names :=
  fun _ n _ h => ⟨n, Nat.le_refl n, h⟩

theorem Passes.trans {others : List String} (h : Passes v good path names next rest)
    (hnext : Passes v good next rest p others) : Passes v good path names p others := by
  intro more n q hleads
  obtain ⟨m, hm, hmore⟩ := h more n q hleads
  obtain ⟨k, hk, hlast⟩ := hnext more m q hmore
  exact ⟨k, Nat.le_trans hk hm, hlast⟩

theorem Passes.follows {result : Except Error LegEnd} (h : Passes v good path names next rest)
    (hnext : Follows v good links next rest result) : Follows v good links path names result := by
  match result with
  | .ok (.reached _) => exact h.trans hnext
  | .ok (.link _ _ _ _) =>
    obtain ⟨name, hname, heq, hup, hnone, hlink, hpast⟩ := hnext
    exact ⟨name, hname, heq, hup, hnone, hlink, h.trans hpast⟩
  | .ok (.circle _ _) =>
    obtain ⟨directory, name, hname, heq, hlookup, hpast⟩ := hnext
    exact ⟨directory, name, hname, heq, hlookup, h.trans hpast⟩
  | .error _ =>
    obtain ⟨directory, name, hname, rest, hup, hnul, hpast⟩ := hnext
    exact ⟨directory, name, hname, rest, hup, hnul, h.trans hpast⟩

namespace LinkLeads

/-- A link comes past its end. -/
theorem passes (h : LinkLeads v good (path.child name hname) n q) :
    Passes v good path (name :: rest) q rest := by
  obtain ⟨directory, name', hname', heq, hlink⟩ := h
  obtain ⟨rfl, rfl⟩ := Path.child_inj heq
  intro more k r hleads
  obtain ⟨i, j, p, hsum, hfirst, hmore⟩ := hleads.split_first
  obtain ⟨-, rfl⟩ := hfirst.unique hlink
  exact ⟨j, by omega, hmore⟩

/-- What a link stands before leads over more links than the link itself. -/
theorem lt (h : LinkLeads v good (path.child name hname) n q)
    (hleads : Leads v good path (name :: rest) m p) : n < m := by
  obtain ⟨directory, name', hname', heq, hlink⟩ := h
  obtain ⟨rfl, rfl⟩ := Path.child_inj heq
  obtain ⟨i, j, p, hsum, hfirst, -⟩ := hleads.split_first
  obtain ⟨rfl, -⟩ := hfirst.unique hlink
  omega

/-- A link on the way leads to the end of its target. -/
theorem of_leads (hup : name ≠ "..") (hlink : v.linkTarget? (path.child name hname) = some target)
    (hleads : Leads v good path (name :: rest) m p) : ∃ n q,
      LinkLeads v good (path.child name hname) n q ∧
        Leads v good (targetStart path target) (Path.parts target.toList) n q := by
  obtain ⟨i, j, q, -, hfirst, -⟩ := hleads.split_first
  obtain ⟨n, rfl, htarget⟩ := hfirst.of_follow hup hname hlink
  rw [List.append_nil] at htarget
  exact ⟨n, q, ⟨path, name, hname, rfl, hfirst⟩, htarget⟩

end LinkLeads

/-- A leg is followed along the way. -/
theorem followLeg_follows (hknown : ∀ link known, links.lookup link = some (some known) →
      ∃ n, LinkLeads v good link n known) (path : Path) (names : List String) :
    Follows v good links path names (followLeg v links path names) := by
  induction names generalizing path with
  | nil => exact Passes.refl path []
  | cons name rest ih =>
    by_cases hup : name = ".."
    · subst hup
      rw [followLeg, if_pos rfl]
      exact Passes.follows (fun more n q h => ⟨n, Nat.le_refl n, h.of_up⟩) (ih path.climb)
    by_cases hname : IsName name
    · rw [followLeg, if_neg hup, dif_pos hname]
      dsimp only
      cases hnul : View.hasNul name with
      | true => exact ⟨path, name, hname, rest, hup, hnul, .refl path _⟩
      | false =>
        rw [if_neg Bool.false_ne_true]
        cases hlookup : links.lookup (path.child name hname) with
        | some entry =>
          cases entry with
          | some known =>
            obtain ⟨n, hlink⟩ := hknown _ known hlookup
            exact hlink.passes.follows (ih known)
          | none => exact ⟨path, name, hname, rfl, hlookup, .refl path _⟩
        | none =>
          cases hlink : v.linkTarget? (path.child name hname) with
          | some target => exact ⟨name, hname, rfl, hup, hlookup, hlink, .refl path _⟩
          | none =>
            refine Passes.follows (fun more n q h => ?_) (ih (path.child name hname))
            exact ⟨n, Nat.le_refl n, h.of_enter hup hname hlink⟩
    · rw [followLeg, if_neg hup, dif_neg hname]
      exact Passes.follows (fun more n q h => ⟨n, Nat.le_refl n, h.of_skip hname⟩) (ih path)

namespace Ahead

variable {before : List String}

/-- What comes past a point has as much ahead from there. -/
theorem pass (h : Ahead v good path (names ++ before) legs)
    (hpass : Passes v good path names next rest) : Ahead v good next (rest ++ before) legs := by
  induction legs generalizing before with
  | nil => trivial
  | cons leg legs ih =>
    obtain ⟨hleg, hlegs⟩ := h
    refine ⟨fun link hlink => ?_, ?_⟩
    · obtain ⟨m, n, q, hm, hleads, hway⟩ := hleg link hlink
      rw [List.append_assoc] at hway
      obtain ⟨k, hk, hmore⟩ := hpass _ m q hway
      exact ⟨k, n, q, Nat.le_trans hk hm, hleads, by rwa [List.append_assoc]⟩
    · rw [List.append_assoc] at hlegs ⊢
      exact ih hlegs

theorem of_mem (h : Ahead v good path before legs) (hmem : leg ∈ legs) (hleg : leg.link = some next) :
    ∃ more m n q, m ≤ n ∧ LinkLeads v good next n q ∧ Leads v good path (before ++ more) m q := by
  induction legs generalizing before with
  | nil => contradiction
  | cons first others ih =>
    obtain ⟨hfirst, hothers⟩ := h
    obtain rfl | hmem := List.mem_cons.mp hmem
    · exact ⟨leg.names, hfirst next hleg⟩
    · obtain ⟨more, hmore⟩ := ih hothers hmem
      exact ⟨first.names ++ more, by simpa using hmore⟩

end Ahead

namespace Followed

theorem start (path : Path) (names : List String) : Followed v good [] path [⟨none, names⟩] where
  known _ _ h := by simp at h
  begun _ h := by simp at h
  ahead := ⟨nofun, trivial⟩

/-- The first leg gets on along its names. -/
theorem pass (h : Followed v good links path (⟨link, names⟩ :: legs))
    (hpass : Passes v good path names next rest) :
    Followed v good links next (⟨link, rest⟩ :: legs) where
  known := h.known
  begun other hother := by
    obtain ⟨leg, hmem, hleg⟩ := h.begun other hother
    obtain rfl | hmem := List.mem_cons.mp hmem
    · exact ⟨_, List.mem_cons_self, hleg⟩
    · exact ⟨leg, List.mem_cons_of_mem _ hmem, hleg⟩
  ahead := by
    obtain ⟨hleg, hlegs⟩ := h.ahead
    refine ⟨fun other hother => ?_, ?_⟩
    · obtain ⟨m, n, q, hm, hleads, hway⟩ := hleg other hother
      obtain ⟨k, hk, hmore⟩ := hpass [] m q (by simpa using hway)
      exact ⟨k, n, q, Nat.le_trans hk hm, hleads, by simpa using hmore⟩
    · have hahead : Ahead v good path (names ++ []) legs := by simpa using hlegs
      simpa using hahead.pass hpass

theorem lookup_cons_eq {value : Option Path} (h : ((next, value) :: links).lookup p = some none) :
    p = next ∧ value = none ∨ p ≠ next ∧ links.lookup p = some none := by
  rw [List.lookup_cons] at h
  split at h
  · rename_i heq
    exact .inl ⟨eq_of_beq heq, Option.some.inj h⟩
  · rename_i hne
    exact .inr ⟨by simpa using hne, h⟩

/-- At the end of the first leg its link is known to lead there. -/
theorem finish (h : Followed v good links path (⟨link, []⟩ :: legs)) :
    Followed v good (links.remember link path) path legs := by
  obtain ⟨hleg, hlegs⟩ := h.ahead
  cases link with
  | none =>
    refine ⟨h.known, fun other hother => ?_, hlegs⟩
    obtain ⟨leg, hmem, hlink⟩ := h.begun other hother
    obtain rfl | hmem := List.mem_cons.mp hmem
    · contradiction
    · exact ⟨leg, hmem, hlink⟩
  | some link =>
    refine ⟨fun other known hother => ?_, fun other hother => ?_, hlegs⟩
    · rw [Links.remember, List.lookup_cons] at hother
      split at hother
      · rename_i heq
        obtain rfl := eq_of_beq heq
        obtain rfl := Option.some.inj (Option.some.inj hother)
        obtain ⟨m, n, q, -, hleads, hway⟩ := hleg other rfl
        cases hway
        exact ⟨n, hleads⟩
      · exact h.known other known hother
    · obtain ⟨-, hnone⟩ | ⟨hne, hother⟩ := lookup_cons_eq hother
      · contradiction
      · obtain ⟨leg, hmem, hlink⟩ := h.begun other hother
        obtain rfl | hmem := List.mem_cons.mp hmem
        · exact absurd (Option.some.inj hlink).symm hne
        · exact ⟨leg, hmem, hlink⟩

/-- A link that is being followed does not come next. -/
theorem lookup_next (h : Followed v good links path (⟨link, name :: rest⟩ :: legs))
    (hname : IsName name) : links.lookup (path.child name hname) ≠ some none := by
  intro hlookup
  obtain ⟨leg, hmem, hleg⟩ := h.begun _ hlookup
  -- Whichever leg it is, the name comes first on the way to its end.
  obtain ⟨more, m, n, q, hm, hleads, hway⟩ : ∃ more m n q, m ≤ n ∧
      LinkLeads v good (path.child name hname) n q ∧ Leads v good path (name :: more) m q := by
    obtain rfl | hmem := List.mem_cons.mp hmem
    · exact ⟨rest, h.ahead.1 _ hleg⟩
    · obtain ⟨more, hmore⟩ := h.ahead.2.of_mem hmem hleg
      exact ⟨rest ++ more, by simpa using hmore⟩
  have hlt := hleads.lt hway
  omega

/-- A new link comes before the rest of its leg. -/
theorem meet {more : List String} (h : Followed v good links path (⟨link, name :: rest⟩ :: legs))
    (hup : name ≠ "..") (hlink : v.linkTarget? (path.child name hname) = some target)
    (hleads : Leads v good path (name :: more) m p) :
    Followed v good ((path.child name hname, none) :: links) (targetStart path target)
      (⟨some (path.child name hname), Path.parts target.toList⟩ :: ⟨link, rest⟩ :: legs) where
  known other known hother := by
    rw [List.lookup_cons] at hother
    split at hother
    · simp at hother
    · exact h.known other known hother
  begun other hother := by
    obtain ⟨rfl, -⟩ | ⟨-, hother⟩ := lookup_cons_eq hother
    · exact ⟨_, List.mem_cons_self, rfl⟩
    · obtain ⟨leg, hmem, hleg⟩ := h.begun other hother
      obtain rfl | hmem := List.mem_cons.mp hmem
      · exact ⟨_, List.mem_cons_of_mem _ List.mem_cons_self, hleg⟩
      · exact ⟨leg, List.mem_cons_of_mem _ (List.mem_cons_of_mem _ hmem), hleg⟩
  ahead := by
    have hpass : Passes v good path [name] (targetStart path target)
        (Path.parts target.toList) := fun more n q hway => by
      obtain ⟨k, rfl, hmore⟩ := Leads.of_follow hup hname hlink hway
      exact ⟨k, Nat.le_succ k, hmore⟩
    refine ⟨fun other hother => ?_, ?_⟩
    · obtain rfl := Option.some.inj hother
      obtain ⟨n, q, hnew, htarget⟩ := LinkLeads.of_leads hup hlink hleads
      exact ⟨n, n, q, Nat.le_refl n, hnew, htarget⟩
    · have hold : Ahead v good path ([name] ++ []) (⟨link, rest⟩ :: legs) := h.ahead
      simpa using hold.pass hpass

end Followed

/-- Where a trail ends whose way leads to `q`: there, or before a link on the way. -/
def Arrives (v : View) (good : Path → Prop) (n : Nat) (q : Path) : Except Error TrailEnd → Prop
  | .ok (.reached p) => p = q
  | .ok (.link directory next target links legs) =>
    ∃ (name : String) (hname : IsName name) (link : Option Path) (rest : List String)
      (others : List Leg), next = directory.child name hname ∧ name ≠ ".." ∧
        v.linkTarget? next = some target ∧ legs = ⟨link, rest⟩ :: others ∧
        Followed v good links directory (⟨link, name :: rest⟩ :: others) ∧
        ∃ m ≤ n, Leads v good directory (name :: rest ++ others.flatMap Leg.names) m q
  | .error _ => AsksNul good

theorem Arrives.mono {result : Except Error TrailEnd} (h : Arrives v good m q result)
    (hmn : m ≤ n) : Arrives v good n q result := by
  match result with
  | .error _ | .ok (.reached _) => exact h
  | .ok (.link _ _ _ _ _) =>
    obtain ⟨name, hname, link, rest, others, hnext, hup, hlink, hlegs, hfollowed, k, hk, hend⟩ := h
    exact ⟨name, hname, link, rest, others, hnext, hup, hlink, hlegs, hfollowed, k,
      Nat.le_trans hk hmn, hend⟩

theorem Followed.arrives (h : Followed v good links path legs)
    (hleads : Leads v good path (legs.flatMap Leg.names) n q) :
    Arrives v good n q (followLegs v links path legs) := by
  induction legs generalizing links path n with
  | nil =>
    cases hleads
    rfl
  | cons leg legs ih =>
    obtain ⟨link, names⟩ := leg
    rw [List.flatMap_cons] at hleads
    have hleg := followLeg_follows h.known path names
    unfold followLegs
    dsimp only
    generalize followLeg v links path names = result at hleg
    match result with
    | .error _ =>
      obtain ⟨directory, name, hname, rest, hup, hnul, hpast⟩ := hleg
      obtain ⟨m, -, hmore⟩ := hpast _ n q hleads
      exact ⟨directory, name, hname, hmore.good_next hup hname, hnul⟩
    | .ok (.circle next rest) =>
      obtain ⟨directory, name, hname, rfl, hlookup, hpast⟩ := hleg
      exact absurd hlookup ((h.pass hpast).lookup_next hname)
    | .ok (.link directory next target rest) =>
      obtain ⟨name, hname, hnext, hup, -, hlink, hpast⟩ := hleg
      exact ⟨name, hname, link, rest, legs, hnext, hup, hlink, rfl, h.pass hpast,
        hpast _ n q hleads⟩
    | .ok (.reached reached) =>
      obtain ⟨m, hm, hmore⟩ := hleg _ n q hleads
      exact (ih (h.pass hleg).finish hmore).mono hm

/-- With what is remembered, all links are followed to the end of the way. -/
theorem Followed.expand (h : Followed v good links path legs)
    (hleads : Leads v good path (legs.flatMap Leg.names) n q) (limit : Nat) :
    (∀ p, expand v limit links path legs = .ok p → p = q) ∧
      ∀ e, expand v limit links path legs = .error e → AsksNul good ∨ limit < n := by
  induction limit generalizing links path legs n with
  | zero =>
    have harrives := h.arrives hleads
    unfold Files.expand
    generalize followLegs v links path legs = result at harrives
    match result with
    | .error _ => exact ⟨nofun, fun _ _ => .inl harrives⟩
    | .ok (.reached _) => exact ⟨fun p hp => Except.ok.inj hp ▸ harrives, nofun⟩
    | .ok (.link directory next target links legs) =>
      obtain ⟨name, hname, link, rest, others, rfl, hup, hlink, -, -, m, hm, hmore⟩ := harrives
      obtain ⟨k, rfl, -⟩ := Leads.of_follow hup hname hlink hmore
      exact ⟨nofun, fun _ _ => .inr (by omega)⟩
  | succ limit ih =>
    have harrives := h.arrives hleads
    unfold Files.expand
    generalize followLegs v links path legs = result at harrives
    match result with
    | .error _ => exact ⟨nofun, fun _ _ => .inl harrives⟩
    | .ok (.reached _) => exact ⟨fun p hp => Except.ok.inj hp ▸ harrives, nofun⟩
    | .ok (.link directory next target links legs) =>
      obtain ⟨name, hname, link, rest, others, rfl, hup, hlink, rfl, hfollowed, m, hm, hmore⟩ :=
        harrives
      obtain ⟨k, rfl, htarget⟩ := Leads.of_follow hup hname hlink hmore
      obtain ⟨hok, herror⟩ := ih (hfollowed.meet hup hlink hmore) (by simpa using htarget)
      exact ⟨hok, fun e he => (herror e he).imp_right fun hlimit => by omega⟩

/-- The expansion of names comes to what they lead to. It fails only at a NUL character, or if there
are too many links on the way. -/
theorem expand_of_leads (h : Leads v good path names n q) (limit : Nat) :
    (∀ p, expand v limit [] path [⟨none, names⟩] = .ok p → p = q) ∧
      ∀ e, expand v limit [] path [⟨none, names⟩] = .error e → AsksNul good ∨ limit < n :=
  (Followed.start path names).expand (by simpa using h) limit

end Remembering

end BuildLauncher.Files

import BuildLauncher.Files.Resolve
import BuildLauncher.Proofs.Files.Directories
import BuildLauncher.Proofs.Steps

/-!
# Paths from the root

A path from the root leads to the same place from every working directory: it is found, inspected,
made canonical and made a directory alike (`View.resolve_seenFrom`,
`View.ensureDirectory_seenFrom`). Whatever is canonical is a path from the root.
-/
namespace BuildLauncher.Files

namespace Path

variable {p q : Path}

theorem isAbsolute_iff : p.isAbsolute = true ↔ p.anchor ≠ .here := by simp [isAbsolute]

theorem isRooted_text (h : p.isAbsolute = true) : isRooted p.text = true := by
  cases ha : p.anchor with
  | here => simp [isAbsolute, ha] at h
  | root | doubleRoot => simp [isRooted, text, ha, Anchor.text]

theorem isAbsolute_parent : p.parent.isAbsolute = p.isAbsolute := rfl

theorem isAbsolute_join (h : p.isAbsolute = true) : (p.join q).isAbsolute = true := by
  unfold join
  split
  · assumption
  · exact h

theorem anchor_climb (p : Path) : p.climb.anchor = p.anchor := by
  unfold climb
  split
  · split <;> rfl
  · split <;> rfl

theorem anchor_collapse (p : Path) : p.collapse.anchor = p.anchor := by
  have hfold (names : List { n // n ∈ p.names }) (q : Path) :
      (names.foldl (fun q name => if name.val = ".." then q.climb
        else q.child name.val (p.isName _ name.property)) q).anchor = q.anchor := by
    induction names generalizing q with
    | nil => rfl
    | cons name rest ih =>
      rw [List.foldl_cons, ih]
      split
      · exact anchor_climb q
      · rfl
  exact hfold p.names.attach ⟨p.anchor, [], by simp⟩

theorem isAbsolute_climb : p.climb.isAbsolute = p.isAbsolute := by
  simp only [isAbsolute, anchor_climb]

theorem isAbsolute_collapse : p.collapse.isAbsolute = p.isAbsolute := by
  simp only [isAbsolute, anchor_collapse]

end Path

namespace View

/-- The same files as seen from another directory. -/
def seenFrom (v : View) (d : Option Location) : View := { v with workingDir := d }

variable {v : View} {p : Path} {d : Option Location}

@[simp] theorem tree_seenFrom (v : View) (d : Option Location) : (v.seenFrom d).tree = v.tree := rfl

theorem find_seenFrom {text : String} (h : isRooted text = true) (follow : Bool) :
    (v.seenFrom d).find follow text = v.find follow text := by
  simp only [find, tree_seenFrom, h, if_true]

theorem node?_of_isRooted {text : String} (h : isRooted text = true) :
    (v.seenFrom d).node? text = v.node? text := by
  simp only [node?, find_seenFrom h]

theorem node?_seenFrom (h : p.isAbsolute = true) :
    (v.seenFrom d).node? p.text = v.node? p.text :=
  node?_of_isRooted (Path.isRooted_text h)

theorem linkTarget?_seenFrom (h : p.isAbsolute = true) :
    (v.seenFrom d).linkTarget? p = v.linkTarget? p := by
  simp only [linkTarget?, find_seenFrom (Path.isRooted_text h)]

theorem test_seenFrom {kind : Node → Bool} (h : p.isAbsolute = true) :
    (v.seenFrom d).test kind p = v.test kind p := by
  simp only [test, node?_seenFrom h]

theorem isFile_seenFrom (h : p.isAbsolute = true) : (v.seenFrom d).isFile p = v.isFile p :=
  test_seenFrom h

theorem isDirectory_seenFrom (h : p.isAbsolute = true) :
    (v.seenFrom d).isDirectory p = v.isDirectory p :=
  test_seenFrom h

end View

section Following

variable {v : View} {d : Option Location} {links : Links} {path : Path}

/-- Links whose ends, as far as they are known, are paths from the root. -/
def Links.Absolute (links : Links) : Prop :=
  ∀ link known, links.lookup link = some (some known) → known.isAbsolute = true

theorem Links.Absolute.cons (h : links.Absolute) {link : Path} {known : Option Path}
    (hknown : ∀ p, known = some p → p.isAbsolute = true) :
    Links.Absolute ((link, known) :: links) := by
  intro other p hp
  rw [List.lookup_cons] at hp
  split at hp
  · exact hknown p (Option.some.inj hp)
  · exact h other p hp

/-- A leg that ends on a path from the root, with the link it has come to. -/
def LegEnd.Absolute : LegEnd → Prop
  | .reached path => path.isAbsolute = true
  | .link directory next _ _ => directory.isAbsolute = true ∧ next.isAbsolute = true
  | .circle next _ => next.isAbsolute = true

/-- A trail that ends on a path from the root, with the link it has come to. -/
def TrailEnd.Absolute : TrailEnd → Prop
  | .reached path => path.isAbsolute = true
  | .link directory next _ links _ =>
    directory.isAbsolute = true ∧ next.isAbsolute = true ∧ links.Absolute

theorem followLeg_seenFrom (hlinks : links.Absolute) (hpath : path.isAbsolute = true)
    (names : List String) :
    followLeg (v.seenFrom d) links path names = followLeg v links path names ∧
      ∀ e, followLeg v links path names = .ok e → e.Absolute := by
  induction names generalizing path with
  | nil => exact ⟨rfl, fun e he => Except.ok.inj he ▸ hpath⟩
  | cons name rest ih =>
    unfold followLeg
    split
    · exact ih (Path.isAbsolute_climb.trans hpath)
    · split
      · rename_i hname
        have hnext : (path.child name hname).isAbsolute = true := hpath
        dsimp only
        split
        · exact ⟨rfl, nofun⟩
        · split
          · rename_i known hknown
            exact ih (hlinks _ known hknown)
          · exact ⟨rfl, fun e he => Except.ok.inj he ▸ hnext⟩
          · rw [View.linkTarget?_seenFrom hnext]
            split
            · exact ⟨rfl, fun e he => Except.ok.inj he ▸ ⟨hpath, hnext⟩⟩
            · exact ih hnext
      · exact ih hpath

theorem isAbsolute_appendLegs (h : path.isAbsolute = true) (legs : List Leg) :
    (appendLegs path legs).isAbsolute = true := by
  induction legs generalizing path with
  | nil => exact h
  | cons leg rest ih => exact ih (Path.isAbsolute_join h)

theorem followLegs_seenFrom (hlinks : links.Absolute) (hpath : path.isAbsolute = true)
    (legs : List Leg) :
    followLegs (v.seenFrom d) links path legs = followLegs v links path legs ∧
      ∀ e, followLegs v links path legs = .ok e → e.Absolute := by
  induction legs generalizing links path with
  | nil => exact ⟨rfl, fun e he => Except.ok.inj he ▸ hpath⟩
  | cons leg rest ih =>
    obtain ⟨heq, hend⟩ := followLeg_seenFrom (v := v) (d := d) hlinks hpath leg.names
    simp only [followLegs, heq]
    cases hleg : followLeg v links path leg.names with
    | error e => exact ⟨rfl, nofun⟩
    | ok found =>
      have hfound := hend found hleg
      cases found with
      | circle next names =>
        exact ⟨rfl, fun e he => Except.ok.inj he ▸ isAbsolute_appendLegs hfound _⟩
      | link directory next target names =>
        exact ⟨rfl, fun e he => Except.ok.inj he ▸ ⟨hfound.1, hfound.2, hlinks⟩⟩
      | reached reached =>
        -- What a link leads to is known once its leg has come to its end.
        cases leg.link with
        | none => exact ih hlinks hfound
        | some link =>
          exact ih (hlinks.cons fun p hp => Option.some.inj hp ▸ hfound) hfound

theorem expand_seenFrom (limit : Nat) (hlinks : links.Absolute) (hpath : path.isAbsolute = true)
    (legs : List Leg) :
    expand (v.seenFrom d) limit links path legs = expand v limit links path legs ∧
      ∀ reached, expand v limit links path legs = .ok reached → reached.isAbsolute = true := by
  induction limit generalizing links path legs with
  | zero =>
    obtain ⟨heq, hend⟩ := followLegs_seenFrom (v := v) (d := d) hlinks hpath legs
    unfold expand
    rw [heq]
    cases hlegs : followLegs v links path legs with
    | error e => exact ⟨rfl, nofun⟩
    | ok found =>
      cases found with
      | reached reached => exact ⟨rfl, fun e he => Except.ok.inj he ▸ hend _ hlegs⟩
      | link directory next target links legs => exact ⟨rfl, nofun⟩
  | succ limit ih =>
    obtain ⟨heq, hend⟩ := followLegs_seenFrom (v := v) (d := d) hlinks hpath legs
    unfold expand
    rw [heq]
    cases hlegs : followLegs v links path legs with
    | error e => exact ⟨rfl, nofun⟩
    | ok found =>
      cases found with
      | reached reached => exact ⟨rfl, fun e he => Except.ok.inj he ▸ hend _ hlegs⟩
      | link directory next target links legs =>
        obtain ⟨hdirectory, -, hmore⟩ := hend _ hlegs
        refine ih (hmore.cons fun p hp => by contradiction) ?_ _
        split
        · rfl
        · exact hdirectory

end Following

namespace View

variable {v w : View} {p : Path} {d : Option Location}

theorem isAbsolute_currentPath (h : v.currentPath = .ok p) : p.isAbsolute = true := by
  unfold currentPath at h
  split at h
  · contradiction
  · rename_i location _
    obtain rfl := Except.ok.inj h
    have hlist : ("/" ++ "/".intercalate location).toList =
        '/' :: ("/".intercalate location).toList := by
      simp
    rw [Path.isAbsolute_iff]
    change Path.anchorOf _ ≠ .here
    rw [hlist]
    unfold Path.anchorOf
    split <;> simp_all

/-- A path from the root has the same canonical form in every working directory. -/
theorem resolve_seenFrom (h : p.isAbsolute = true) : (v.seenFrom d).resolve p = v.resolve p := by
  have hlimit : (v.seenFrom d).expansionLimit = v.expansionLimit := rfl
  have hlinks : Links.Absolute [] := nofun
  obtain ⟨heq, hend⟩ := expand_seenFrom (v := v) (d := d) v.expansionLimit hlinks
    (rfl : Path.root.isAbsolute = true) [⟨none, p.names⟩]
  simp only [resolve, h, if_true, hlimit, heq]
  refine bind_congr_ok fun reached hreached => ?_
  have habsolute := hend reached hreached
  have hcollapse : reached.collapse.isAbsolute = true := Path.isAbsolute_collapse.trans habsolute
  simp only [habsolute, if_true, pure_bind, node?_seenFrom hcollapse]

theorem settled_eq_ok {absolute canonical : Path} : (do
      if hasNul absolute.collapse.text then throw .nulCharacter
      match v.node? absolute.collapse.text with
      | .error .tooManyLinks => throw (.linkLoop absolute.collapse.text)
      | _ => return absolute.collapse : Except Error Path) = .ok canonical ↔
    canonical = absolute.collapse ∧ hasNul canonical.text = false ∧
      v.node? canonical.text ≠ .error .tooManyLinks := by
  constructor
  · intro h
    cases hnul : hasNul absolute.collapse.text with
    | true => simp [hnul, throw_eq_error] at h
    | false =>
      simp only [hnul, Bool.false_eq_true, if_false] at h
      split at h
      · contradiction
      · rename_i hloop
        obtain rfl := Except.ok.inj h
        exact ⟨rfl, hnul, hloop⟩
  · rintro ⟨rfl, hnul, hloop⟩
    simp only [hnul, Bool.false_eq_true, if_false]
    rfl

/-- The canonical form is the end of the links, seen from the root and without its pairs of points.
The system can be asked for it, and does not walk in a circle there. -/
theorem resolve_eq_ok {canonical : Path} : v.resolve p = .ok canonical ↔ ∃ reached absolute,
    expand v v.expansionLimit [] (if p.isAbsolute then .root else .here) [⟨none, p.names⟩] =
        .ok reached ∧
      (if reached.isAbsolute then pure reached else v.currentPath.map (·.join reached) :
        Except Error Path) = .ok absolute ∧
      canonical = absolute.collapse ∧ hasNul canonical.text = false ∧
      v.node? canonical.text ≠ .error .tooManyLinks := by
  constructor
  · intro h
    obtain ⟨reached, hreached, h⟩ := bind_eq_ok h
    refine ⟨reached, ?_⟩
    split at h
    · rename_i hrooted
      exact ⟨reached, hreached, if_pos hrooted, settled_eq_ok.mp h⟩
    · rename_i hrelative
      obtain ⟨absolute, habsolute, h⟩ := bind_eq_ok h
      exact ⟨absolute, hreached, (if_neg hrelative).trans habsolute, settled_eq_ok.mp h⟩
  · rintro ⟨reached, absolute, hreached, habsolute, hsettled⟩
    simp only [resolve, hreached, ok_bind]
    split at habsolute
    · rename_i hrooted
      obtain rfl := Except.ok.inj habsolute
      rw [if_pos hrooted]
      exact settled_eq_ok.mpr hsettled
    · rename_i hrelative
      rw [if_neg hrelative, habsolute]
      exact settled_eq_ok.mpr hsettled

/-- What has a canonical form has it without a NUL character, and links on it lead to an end. -/
theorem askable_of_resolve {canonical : Path} (h : v.resolve p = .ok canonical) :
    hasNul canonical.text = false ∧ v.node? canonical.text ≠ .error .tooManyLinks := by
  obtain ⟨-, -, -, -, -, haskable⟩ := resolve_eq_ok.mp h
  exact haskable

/-- A canonical path is a path from the root without its pairs of points. -/
theorem exists_collapse_of_resolve {canonical : Path} (h : v.resolve p = .ok canonical) :
    ∃ absolute : Path, absolute.isAbsolute = true ∧ canonical = absolute.collapse := by
  obtain ⟨reached, absolute, -, habsolute, hcanonical, -⟩ := resolve_eq_ok.mp h
  refine ⟨absolute, ?_, hcanonical⟩
  split at habsolute
  · rename_i hrooted
    obtain rfl := Except.ok.inj habsolute
    exact hrooted
  · obtain ⟨current, hcurrent, rfl⟩ := map_eq_ok habsolute
    exact Path.isAbsolute_join (isAbsolute_currentPath hcurrent)

/-- A canonical path starts at the root. -/
theorem isAbsolute_resolve {canonical : Path} (h : v.resolve p = .ok canonical) :
    canonical.isAbsolute = true := by
  obtain ⟨absolute, habsolute, rfl⟩ := exists_collapse_of_resolve h
  exact Path.isAbsolute_collapse.trans habsolute

section Changes

theorem makeDirectory_seenFrom (h : p.isAbsolute = true) :
    (v.seenFrom d).makeDirectory p = (v.makeDirectory p).map (·.seenFrom d) := by
  simp only [makeDirectory, find_seenFrom (Path.isRooted_text h)]
  cases v.find false p.text with
  | error fault => rfl
  | ok place => cases place <;> rfl

/-- An attempt that comes to the same from another directory. -/
def Attempt.seenFrom (a : Attempt) (d : Option Location) : Attempt := (a.1, a.2.seenFrom d)

theorem forgive_seenFrom (h : p.isAbsolute = true) (fault : Fault) :
    (v.seenFrom d).forgive fault p = (v.forgive fault p).seenFrom d := by
  simp only [forgive, isDirectory_seenFrom h]
  cases v.isDirectory p with
  | error e => rfl
  | ok there => cases there <;> rfl

theorem ensureChild_seenFrom (h : p.isAbsolute = true) :
    (v.seenFrom d).ensureChild p = (v.ensureChild p).seenFrom d := by
  simp only [ensureChild, makeDirectory_seenFrom h]
  cases v.makeDirectory p with
  | ok w => rfl
  | error fault =>
    cases fault
    case notFound => rfl
    all_goals exact forgive_seenFrom h _

theorem ensureDirectoryFrom_seenFrom (h : p.isAbsolute = true) (depth : Nat) :
    (v.seenFrom d).ensureDirectoryFrom depth p = (v.ensureDirectoryFrom depth p).seenFrom d := by
  induction depth generalizing p with
  | zero =>
    unfold ensureDirectoryFrom
    rw [makeDirectory_seenFrom h]
    split
    · rfl
    · cases v.makeDirectory p with
      | ok w => rfl
      | error fault =>
        cases fault
        case notFound => rfl
        all_goals exact forgive_seenFrom h _
  | succ depth ih =>
    have hparent := ih (p := p.parent) h
    unfold ensureDirectoryFrom
    rw [makeDirectory_seenFrom h]
    split
    · rfl
    · cases v.makeDirectory p with
      | ok w => rfl
      | error fault =>
        cases fault
        case notFound =>
          simp only [map_error, hparent]
          rcases v.ensureDirectoryFrom depth p.parent with ⟨e | u, w⟩
          · rfl
          · exact ensureChild_seenFrom h
        all_goals exact forgive_seenFrom h _

theorem ensureDirectory_seenFrom (h : p.isAbsolute = true) :
    (v.seenFrom d).ensureDirectory p = (v.ensureDirectory p).seenFrom d :=
  ensureDirectoryFrom_seenFrom h _

end Changes

end View
end BuildLauncher.Files

import BuildLauncher.Proofs.Files.Arrival

/-!
# A file more

A file that is put at a vacant place is found where the place was, and in its way is what would have
been missing below it. Nothing else is changed (`View.find_withFile`); links are as they were, and so
are the ways of all paths.
-/
namespace BuildLauncher.Files

/-- The view with a file more. -/
def View.withFile (v : View) (place : Location) (content : List UInt8) : View :=
  { v with tree := v.tree.insert place (.file content) }

/-- Answers before and after something takes a vacant place: where that was the answer it is another
one, and where a way ended there, it ends at something that is no directory. -/
inductive Taken {α : Type} (vacant taken : α) : Except Fault α → Except Fault α → Prop
  | same {answer : Except Fault α} (other : answer ≠ .ok vacant) : Taken vacant taken answer answer
  | taken : Taken vacant taken (.ok vacant) (.ok taken)
  | below : Taken vacant taken (.error .notFound) (.error .notDirectory)

section Walking

variable {t : Tree} {follow : Bool} {location place directory : Location} {names more : List String}
  {links : Nat} {content : List UInt8} {name : String}

theorem advance_insert (hne : place ≠ []) (hvacant : t.get? place = none) (follow : Bool)
    (location : Location) (names : List String) :
    Taken (.done (.vacant place)) (.done (.node place (.file content)))
      (advance t follow location names)
      (advance (t.insert place (.file content)) follow location names) := by
  induction names generalizing location with
  | nil => exact .same (by simp [advance])
  | cons name rest ih =>
    by_cases hd : name = "."
    · simpa [advance, hd] using ih location
    by_cases hp : name = ".."
    · simpa [advance, hd, hp] using ih location.dropLast
    by_cases hl : nameLimit < name.utf8ByteSize
    · simpa [advance, hd, hp, hl] using Taken.same (by simp)
    rw [advance_name hd hp hl, advance_name hd hp hl, Tree.get?_insert t hne]
    by_cases hplace : location ++ [name] = place
    · rw [hplace, hvacant, if_pos rfl]
      by_cases hrest : rest = []
      · rw [if_pos hrest]
        simpa [hrest] using Taken.taken
      · rw [if_neg hrest]
        simpa [hrest] using Taken.below
    · rw [if_neg hplace]
      cases t.get? (location ++ [name]) with
      | none =>
        refine .same ?_
        dsimp only
        split <;> simp [hplace]
      | some node =>
        cases node with
        | directory => exact ih _
        | link target =>
          refine .same ?_
          dsimp only
          split <;> simp
        | file | program =>
          refine .same ?_
          dsimp only
          split <;> simp

theorem Taken.resume {onward further : Location → String → List String → Except Fault Place}
    {before after : Except Fault Pause}
    (h : Taken (.done (.vacant place)) (.done (.node place (.file content))) before after)
    (hlink : ∀ directory target rest, Taken (.vacant place) (.node place (.file content))
      (onward directory target rest) (further directory target rest)) :
    Taken (.vacant place) (.node place (.file content)) (resume onward before)
      (resume further after) := by
  cases h with
  | taken => exact .taken
  | below => exact .below
  | same hother =>
    match before with
    | .error _ => exact .same (by simp [Files.resume])
    | .ok (.done found) => exact .same fun heq => hother (by rw [Except.ok.inj heq])
    | .ok (.link directory target rest) => exact hlink directory target rest

theorem walk_insert (hne : place ≠ []) (hvacant : t.get? place = none) (follow : Bool) (links : Nat)
    (location : Location) (names : List String) :
    Taken (.vacant place) (.node place (.file content)) (walk t follow links location names)
      (walk (t.insert place (.file content)) follow links location names) := by
  induction links generalizing location names with
  | zero =>
    rw [walk_eq_resume, walk_eq_resume]
    exact (advance_insert hne hvacant follow location names).resume fun _ _ _ => .same (by simp [onward])
  | succ links ih =>
    rw [walk_eq_resume, walk_eq_resume]
    exact (advance_insert hne hvacant follow location names).resume fun _ _ _ => ih _ _

/-- No link leads to a place that is vacant. -/
def Tree.NoDangling (t : Tree) : Prop :=
  ∀ location target, t.get? location = some (.link target) →
    ∀ vacant, walk t true linkLimit [] location ≠ .ok (.vacant vacant)

/-- Without dangling links a name leads from a directory to no vacant place but its own. -/
theorem Tree.NoDangling.eq_child {d : Path} {vacant : Location} (h : t.NoDangling) (hd : t.Holds d)
    (hname : IsName name) (hentry : IsEntry name) (hle : links ≤ linkLimit)
    (hwalk : walk t true links d.names [name] = .ok (.vacant vacant)) : vacant = d.names ++ [name] := by
  cases hnode : t.get? (d.names ++ [name]) with
  | none =>
    rw [walk.eq_def, advance_name hname.2.1 hentry.proper (Nat.not_lt.mpr hentry.short), hnode] at hwalk
    simpa using hwalk.symm
  | some node =>
    cases node with
    | link target =>
      refine absurd ?_ (h _ target hnode vacant)
      rw [hd.walk_child]
      exact walk_links_mono hle hwalk
    | directory | file | program =>
      rw [walk.eq_def, advance_name hname.2.1 hentry.proper (Nat.not_lt.mpr hentry.short), hnode] at hwalk
      simp [advance] at hwalk

end Walking

section Viewing

variable {v w : View} {t u : Tree} {p : Path} {place location : Location} {node : Node}
  {content : List UInt8} {text : String} {links : Nat} {names : List String}

theorem Tree.Holds.mono (h : t.Holds p) (hextended : t.ExtendedBy u) : u.Holds p where
  root := h.root
  entries := h.entries
  directories q hq := hextended _ _ (h.directories q hq)

namespace View

/-- A way is made by links alone. -/
theorem way_congr_links (h : ∀ p, w.linkTarget? p = v.linkTarget? p) (links : Nat) (p : Path)
    (names : List String) : w.way links p names = v.way links p names := by
  have hfurther {further onward : Path → List String → Way}
      (hsame : ∀ p names, further p names = onward p names) (p : Path) (names : List String) :
      w.wayUntil further p names = v.wayUntil onward p names := by
    induction names generalizing p with
    | nil => rfl
    | cons name rest ih => simp only [wayUntil, h, ih, hsame]
  induction links generalizing p names with
  | zero => exact hfurther (fun _ _ => rfl) p names
  | succ links ih => exact hfurther ih p names

variable (hne : place ≠ []) (hvacant : v.tree.get? place = none)
include hne hvacant

theorem extendedBy_withFile : v.ExtendedBy (v.withFile place content) :=
  ⟨Tree.extendedBy_insert hne hvacant _, rfl⟩

variable (content) in
/-- Where a text leads to the vacant place it leads to the file, and where it leads below it, it leads
nowhere as before. -/
theorem find_withFile (follow : Bool) (text : String) :
    Taken (.vacant place) (.node place (.file content)) (v.find follow text)
      ((v.withFile place content).find follow text) := by
  unfold find
  split
  · exact .same (by simp)
  split
  · exact .same (by simp)
  split
  · exact walk_insert hne hvacant follow linkLimit [] _
  · have hsame : (v.withFile place content).workingDir = v.workingDir := rfl
    rw [hsame]
    cases v.workingDir with
    | none => exact .same (by simp)
    | some directory => exact walk_insert hne hvacant follow linkLimit directory _

theorem find_withFile_of_vacant {follow : Bool} (h : v.find follow text = .ok (.vacant place)) :
    (v.withFile place content).find follow text = .ok (.node place (.file content)) := by
  have htaken := find_withFile content hne hvacant follow text
  rw [h] at htaken
  generalize (v.withFile place content).find follow text = after at htaken
  cases htaken with
  | same hother => exact absurd rfl hother
  | taken => rfl

theorem linkTarget?_withFile (p : Path) :
    (v.withFile place content).linkTarget? p = v.linkTarget? p := by
  have htaken := find_withFile content hne hvacant false p.text
  unfold linkTarget?
  generalize v.find false p.text = before at htaken
  generalize (v.withFile place content).find false p.text = after at htaken
  cases htaken <;> rfl

theorem inReach_withFile : (v.withFile place content).InReach p ↔ v.InReach p := by
  unfold InReach
  rw [way_congr_links (linkTarget?_withFile hne hvacant)]

theorem directory_of_withFile
    (h : (v.withFile place content).node? text = .ok (location, .directory)) :
    v.node? text = .ok (location, .directory) := by
  have htaken := find_withFile content hne hvacant true text
  rw [node?_eq_ok] at h ⊢
  rw [h] at htaken
  generalize v.find true text = before at htaken
  cases htaken with
  | same => rfl

variable (content) in
/-- What is no file becomes one only where a path leads to the place that was vacant. -/
theorem isFile_withFile (h : v.isFile p = .ok false) :
    (v.withFile place content).isFile p = .ok false ∨
      (v.withFile place content).isFile p = .ok true ∧ v.find true p.text = .ok (.vacant place) := by
  have htaken := find_withFile content hne hvacant true p.text
  unfold isFile test node? at h ⊢
  generalize v.find true p.text = before at htaken h
  generalize (v.withFile place content).find true p.text = after at htaken
  cases htaken with
  | same => exact .inl h
  | taken => cases hnul : hasNul p.text <;> simp_all [Node.isFile]
  | below => cases hnul : hasNul p.text <;> simp_all

theorem Sound.withFile (hsound : v.Sound) (hclean : ∀ name ∈ place, View.hasNul name = false) :
    (v.withFile place content).Sound where
  clean e he := by
    obtain rfl | he := List.mem_cons.mp he
    · exact hclean
    · exact hsound.clean e (List.mem_of_mem_filter he)
  held base hbase := by
    obtain ⟨here, hheld, hnames⟩ := hsound.held base hbase
    exact ⟨here, hheld.mono (Tree.extendedBy_insert hne hvacant _), hnames⟩

theorem Locates.withFile (h : v.Locates p location node) :
    (v.withFile place content).Locates p location node where
  found := (node?_mono (extendedBy_withFile hne hvacant) _ (by simp [h.found])).trans h.found
  inReach := (inReach_withFile hne hvacant).mpr h.inReach
  room := h.room

end View

end Viewing

end BuildLauncher.Files

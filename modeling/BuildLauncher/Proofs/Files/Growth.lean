import BuildLauncher.Files.Changes
import Mathlib.Data.List.Infix

/-!
# Trees that grow

Making directories only adds nodes. What a text leads to it leads to in every larger view
(`node?_mono`), and a walk that ends at a vacant place finds the directory that is made there
(`find_vacant`).
-/
namespace BuildLauncher.Files

namespace Tree

/-- Every node of `t` is a node of `u`. -/
def ExtendedBy (t u : Tree) : Prop :=
  ∀ location node, t.get? location = some node → u.get? location = some node

/-- What is found at a location itself. -/
def placeAt (t : Tree) (location : Location) : Place :=
  match t.get? location with
  | some node => .node location node
  | none => .vacant location

theorem ExtendedBy.refl (t : Tree) : t.ExtendedBy t := fun _ _ h => h

theorem ExtendedBy.trans {t u w : Tree} (htu : t.ExtendedBy u) (huw : u.ExtendedBy w) :
    t.ExtendedBy w := fun location node h => huw location node (htu location node h)

theorem extendedBy_insert {t : Tree} {location : Location} (hl : location ≠ [])
    (hn : t.get? location = none) (node : Node) : t.ExtendedBy (t.insert location node) := by
  intro other found ho
  rw [get?_insert t hl]
  by_cases h : other = location
  · subst h
    rw [hn] at ho
    contradiction
  · rw [if_neg h, ho]

end Tree

variable {t u : Tree}

/-- One step of a walk by a name of its own. -/
theorem advance_name {name : String} (hd : name ≠ ".") (hp : name ≠ "..")
    (hl : ¬nameLimit < name.utf8ByteSize) (follow : Bool) (location : Location)
    (rest : List String) :
    advance t follow location (name :: rest) =
      match t.get? (location ++ [name]) with
      | none => if rest = [] then .ok (.done (.vacant (location ++ [name]))) else .error .notFound
      | some .directory => advance t follow (location ++ [name]) rest
      | some (.link target) =>
        if rest = [] && !follow then .ok (.done (.node (location ++ [name]) (.link target)))
        else .ok (.link location target rest)
      | some node =>
        if rest = [] then .ok (.done (.node (location ++ [name]) node))
        else .error .notDirectory := by
  rw [advance]
  exact (if_neg hd).trans ((if_neg hp).trans (if_neg hl))

/-- A walk up to its next link takes the same way in a larger tree unless it misses a node. -/
theorem advance_mono (h : t.ExtendedBy u) (follow : Bool) (location : Location)
    (names : List String) (hm : advance t follow location names ≠ .error .notFound)
    (hv : ∀ next, advance t follow location names ≠ .ok (.done (.vacant next))) :
    advance u follow location names = advance t follow location names := by
  fun_induction advance t follow location names with
  | case1 location => rfl
  | case2 location rest ih => simpa [advance] using ih hm hv
  | case3 location rest _ ih => simpa [advance] using ih hm hv
  | case4 location name rest hd hp hl => simp [advance, hd, hp, hl]
  | case5 location name rest => exact absurd rfl (hv _)
  | case6 location name rest => exact absurd rfl hm
  | case7 location name rest hd hp hl next hn ih =>
    rw [advance_name hd hp hl, h _ _ hn]
    exact ih hm hv
  | case8 location name rest hd hp hl next target hn hend =>
    rw [advance_name hd hp hl, h _ _ hn]
    exact if_pos hend
  | case9 location name rest hd hp hl next target hn hend =>
    rw [advance_name hd hp hl, h _ _ hn]
    exact if_neg hend
  | case10 location name hd hp hl next node hnd hnl hn =>
    rw [advance_name hd hp hl, h _ _ hn]
    cases node <;> simp_all [next]
  | case11 location name rest hd hp hl next node hnd hnl hn hr =>
    rw [advance_name hd hp hl, h _ _ hn]
    cases node <;> simp_all

/-- A walk that does not follow a last link goes on to the next link in the same way if it does. -/
theorem advance_link (h : t.ExtendedBy u) (location : Location) (names : List String)
    {directory : Location} {target : String} {rest : List String}
    (ha : advance t false location names = .ok (.link directory target rest)) :
    advance u true location names = .ok (.link directory target rest) := by
  fun_induction advance t false location names with
  | case2 location rest ih => simpa [advance] using ih ha
  | case3 location rest _ ih => simpa [advance] using ih ha
  | case7 location name rest hd hp hl next hn ih =>
    rw [advance_name hd hp hl, h _ _ hn]
    exact ih ha
  | case9 location name rest hd hp hl next target hn hend =>
    rw [advance_name hd hp hl, h _ _ hn]
    simpa using ha
  | case1 | case4 | case5 | case6 | case8 | case10 | case11 => simp at ha

/-- A walk that ends at a vacant place ends there in a larger tree too, where a directory may have
been made. -/
theorem advance_vacant (h : t.ExtendedBy u) (follow : Bool) (location : Location)
    (names : List String) {place : Location}
    (ha : advance t follow location names = .ok (.done (.vacant place))) :
    place ≠ [] ∧ t.get? place = none ∧
      ((∀ node, u.get? place = some node → node = .directory) →
        advance u true location names = .ok (.done (u.placeAt place))) := by
  fun_induction advance t follow location names with
  | case2 location rest ih => simpa [advance] using ih ha
  | case3 location rest _ ih => simpa [advance] using ih ha
  | case5 location name hd hp hl next hn =>
    obtain rfl : next = place := by simpa using ha
    refine ⟨by simp [next], hn, fun hu => ?_⟩
    rw [advance_name hd hp hl]
    cases hnode : u.get? (location ++ [name]) with
    | none => simp [Tree.placeAt, next, hnode]
    | some node =>
      obtain rfl := hu node hnode
      simp [Tree.placeAt, next, hnode, advance]
  | case7 location name rest hd hp hl next hn ih =>
    rw [advance_name hd hp hl, h _ _ hn]
    exact ih ha
  | case1 | case4 | case6 | case8 | case9 | case10 | case11 => simp at ha

theorem walk_done {follow : Bool} {location : Location} {names : List String} {place : Place}
    (ha : advance t follow location names = .ok (.done place)) (links : Nat) :
    walk t follow links location names = .ok place := by
  rw [walk.eq_def, ha]

/-- What a walk finds, and every fault but a missing node, it finds in a larger tree too. -/
theorem walk_mono (h : t.ExtendedBy u) (follow : Bool) (links : Nat) (location : Location)
    (names : List String) (hm : walk t follow links location names ≠ .error .notFound)
    (hv : ∀ next, walk t follow links location names ≠ .ok (.vacant next)) :
    walk u follow links location names = walk t follow links location names := by
  induction links generalizing location names with
  | zero =>
    have ha := advance_mono h follow location names
    unfold walk at hm hv ⊢
    cases hadv : advance t follow location names with
    | error fault => simp_all
    | ok pause => cases pause <;> simp_all
  | succ links ih =>
    have ha := advance_mono h follow location names
    unfold walk at hm hv ⊢
    cases hadv : advance t follow location names with
    | error fault => simp_all
    | ok pause =>
      cases pause with
      | done place => simp_all
      | link directory target rest =>
        rw [ha (by simp [hadv]) (by simp [hadv])]
        simp only [hadv] at hm hv ⊢
        exact ih _ _ hm hv

/-- A walk that ends at a vacant place ends there in a larger tree too, where a directory may have
been made. -/
theorem walk_vacant (h : t.ExtendedBy u) (links : Nat) (location : Location) (names : List String)
    {place : Location} (hw : walk t false links location names = .ok (.vacant place)) :
    place ≠ [] ∧ t.get? place = none ∧
      ((∀ node, u.get? place = some node → node = .directory) →
        walk u true links location names = .ok (u.placeAt place)) := by
  induction links generalizing location names with
  | zero =>
    unfold walk at hw
    cases hadv : advance t false location names with
    | error fault => simp [hadv] at hw
    | ok pause =>
      cases pause with
      | done found =>
        obtain rfl : found = .vacant place := by simpa [hadv] using hw
        obtain ⟨hne, hn, hd⟩ := advance_vacant h false location names hadv
        exact ⟨hne, hn, fun hu => walk_done (hd hu) 0⟩
      | link directory target rest => simp [hadv] at hw
  | succ links ih =>
    unfold walk at hw
    cases hadv : advance t false location names with
    | error fault => simp [hadv] at hw
    | ok pause =>
      cases pause with
      | done found =>
        obtain rfl : found = .vacant place := by simpa [hadv] using hw
        obtain ⟨hne, hn, hd⟩ := advance_vacant h false location names hadv
        exact ⟨hne, hn, fun hu => walk_done (hd hu) (links + 1)⟩
      | link directory target rest =>
        simp only [hadv] at hw
        obtain ⟨hne, hn, hd⟩ := ih _ _ hw
        refine ⟨hne, hn, fun hu => ?_⟩
        rw [walk, advance_link h location names hadv]
        exact hd hu

namespace View

variable {v w x : View}

/-- Every node of `v` is a node of `w`, seen from the same directory. -/
structure ExtendedBy (v w : View) : Prop where
  tree : v.tree.ExtendedBy w.tree
  workingDir : w.workingDir = v.workingDir

theorem ExtendedBy.refl (v : View) : v.ExtendedBy v := ⟨.refl _, rfl⟩

theorem ExtendedBy.trans (hvw : v.ExtendedBy w) (hwx : w.ExtendedBy x) : v.ExtendedBy x :=
  ⟨hvw.tree.trans hwx.tree, hwx.workingDir.trans hvw.workingDir⟩

theorem find_mono (h : v.ExtendedBy w) (follow : Bool) (text : String)
    (hm : v.find follow text ≠ .error .notFound)
    (hv : ∀ next, v.find follow text ≠ .ok (.vacant next)) :
    w.find follow text = v.find follow text := by
  unfold find at hm hv ⊢
  rw [h.workingDir]
  split
  · rfl
  split
  · rfl
  split
  · rename_i h1 h2 h3
    simp only [if_neg h1, if_neg h2, if_pos h3] at hm hv
    exact walk_mono h.tree _ _ _ _ hm hv
  · rename_i h1 h2 h3
    simp only [if_neg h1, if_neg h2, if_neg h3] at hm hv
    split
    · rfl
    · rename_i directory hd
      simp only [hd] at hm hv
      exact walk_mono h.tree _ _ _ _ hm hv

theorem find_vacant (h : v.ExtendedBy w) (text : String) {place : Location}
    (hf : v.find false text = .ok (.vacant place)) :
    place ≠ [] ∧ v.tree.get? place = none ∧
      ((∀ node, w.tree.get? place = some node → node = .directory) →
        w.find true text = .ok (w.tree.placeAt place)) := by
  unfold find at hf ⊢
  rw [h.workingDir]
  split at hf
  · simp at hf
  split at hf
  · simp at hf
  rename_i h1 h2
  rw [if_neg h1, if_neg h2]
  split at hf
  · rename_i h3
    rw [if_pos h3]
    exact walk_vacant h.tree _ _ _ hf
  · rename_i h3
    rw [if_neg h3]
    split at hf
    · simp at hf
    · exact walk_vacant h.tree _ _ _ hf

/-- What a text leads to it leads to in a larger view. -/
theorem node?_mono (h : v.ExtendedBy w) (text : String) (hm : v.node? text ≠ .error .notFound) :
    w.node? text = v.node? text := by
  unfold node? at hm ⊢
  have hf := find_mono h true text
  cases hfind : v.find true text with
  | error fault => simp_all
  | ok place => cases place <;> simp_all

end View
end BuildLauncher.Files

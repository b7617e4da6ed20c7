import BuildLauncher.Proofs.Files.Held

/-!
# Walks in parts

A walk goes up to its next link and on from what the link leads to (`walk_eq_resume`). So it can be
taken step by step, and one that comes to a directory goes on from there (`walk_append_of_directory`).
-/
namespace BuildLauncher.Files

variable {t : Tree} {follow : Bool} {location directory : Location} {names more : List String}
  {links : Nat} {name : String}

/-- What comes of a pause once it is known what comes of links. -/
def resume (onward : Location → String → List String → Except Fault Place) :
    Except Fault Pause → Except Fault Place
  | .error fault => .error fault
  | .ok (.done place) => .ok place
  | .ok (.link directory target rest) => onward directory target rest

/-- What a link leads on to, while links may be followed. -/
def onward (t : Tree) (follow : Bool) : Nat → Location → String → List String → Except Fault Place
  | 0 => fun _ _ _ => .error .tooManyLinks
  | links + 1 => fun directory target rest =>
    walk t follow links (if isRooted target then [] else directory) (steps target.toList ++ rest)

theorem walk_eq_resume (t : Tree) (follow : Bool) (links : Nat) (location : Location)
    (names : List String) : walk t follow links location names =
      resume (onward t follow links) (advance t follow location names) := by
  unfold walk resume
  cases advance t follow location names with
  | error fault => rfl
  | ok pause => cases pause <;> cases links <;> rfl

/-- Walks that come to the same next link, or to the same end, go on alike. -/
theorem walk_eq_of_advance {follow : Bool} {other : Location}
    (h : advance t follow location names = advance t follow other more) (links : Nat) :
    walk t follow links location names = walk t follow links other more := by
  rw [walk.eq_def, walk.eq_def t follow links other, h]

/-- Climbing from a directory goes up as far as there is one. -/
theorem advance_climbs (t : Tree) (follow : Bool) (base : Location) (n : Nat) (more : List String) :
    advance t follow base (List.replicate n ".." ++ more) =
      advance t follow (base.take (base.length - n)) more := by
  induction n generalizing base with
  | zero => simp
  | succ n ih =>
    rw [List.replicate_succ, List.cons_append, advance, if_neg (by decide), if_pos rfl, ih,
      List.dropLast_eq_take, List.take_take, List.length_take]
    congr 2
    omega

/-- A walk follows a link from the directory that it is in. -/
theorem walk_follow {target : String} (hname : IsName name) (hentry : IsEntry name)
    (hlink : t.get? (location ++ [name]) = some (.link target)) (links : Nat) (more : List String) :
    walk t true (links + 1) location (name :: more) =
      walk t true links (if isRooted target then [] else location) (steps target.toList ++ more) := by
  rw [walk_eq_resume, advance_name hname.2.1 hentry.proper (Nat.not_lt.mpr hentry.short), hlink]
  simp [resume, onward]

theorem walk_enter (hname : IsName name) (hentry : IsEntry name)
    (hdirectory : t.get? (location ++ [name]) = some .directory) (follow : Bool) (links : Nat)
    (more : List String) :
    walk t follow links location (name :: more) =
      walk t follow links (location ++ [name]) more := by
  refine walk_eq_of_advance ?_ links
  rw [advance_name hname.2.1 hentry.proper (Nat.not_lt.mpr hentry.short), hdirectory]

theorem advance_append_of_directory (more : List String)
    (ha : advance t true location names = .ok (.done (.node directory .directory))) :
    advance t true location (names ++ more) = advance t true directory more := by
  fun_induction advance t true location names with
  | case1 location =>
    obtain rfl : location = directory := by simpa using ha
    rfl
  | case2 location rest ih => simpa [advance] using ih ha
  | case3 location rest _ ih => simpa [advance] using ih ha
  | case7 location name rest hd hp hl next hn ih =>
    rw [List.cons_append, advance_name hd hp hl, hn]
    exact ih ha
  | case10 location name hd hp hl next node hnd hnl hn =>
    obtain ⟨-, rfl⟩ : next = directory ∧ node = .directory := by simpa using ha
    exact absurd rfl hnd
  | case4 | case5 | case6 | case8 | case9 | case11 => simp at ha

/-- A walk that finds something comes to it at once, or over a link. -/
theorem walk_cases {found : Place} (h : walk t follow links location names = .ok found) :
    advance t follow location names = .ok (.done found) ∨
      ∃ fewer above target rest, links = fewer + 1 ∧
        advance t follow location names = .ok (.link above target rest) ∧
        walk t follow fewer (if isRooted target then [] else above) (steps target.toList ++ rest) =
          .ok found := by
  rw [walk_eq_resume] at h
  match hadvance : advance t follow location names, links with
  | .error _, _ => simp [hadvance, resume] at h
  | .ok (.done place), _ =>
    obtain rfl : place = found := by simpa [hadvance, resume] using h
    exact .inl rfl
  | .ok (.link _ _ _), 0 => simp [hadvance, resume, onward] at h
  | .ok (.link above target rest), fewer + 1 =>
    rw [hadvance] at h
    exact .inr ⟨fewer, above, target, rest, rfl, rfl, h⟩

/-- A walk that comes to a directory goes on from there, with the links that are left. -/
theorem walk_append_of_directory {links : Nat} {location : Location} {names : List String}
    (hwalk : walk t true links location names = .ok (.node directory .directory)) :
    ∃ left ≤ links, ∀ more, walk t true links location (names ++ more) =
      walk t true left directory more := by
  obtain hdone | ⟨fewer, above, target, rest, rfl, hadvance, honward⟩ := walk_cases hwalk
  · exact ⟨links, Nat.le_refl _, fun more =>
      walk_eq_of_advance (advance_append_of_directory more hdone) links⟩
  · obtain ⟨left, hleft, hmore⟩ := walk_append_of_directory honward
    refine ⟨left, Nat.le_succ_of_le hleft, fun more => ?_⟩
    rw [walk_eq_resume, advance_append_of_link hadvance, ← hmore more, List.append_assoc]
    rfl

/-- What a walk finds it finds with more links as well. -/
theorem walk_links_mono {links further : Nat} {location : Location} {names : List String}
    {found : Place} (hle : links ≤ further)
    (hwalk : walk t follow links location names = .ok found) :
    walk t follow further location names = .ok found := by
  obtain hdone | ⟨fewer, above, target, rest, rfl, hadvance, honward⟩ := walk_cases hwalk
  · rw [walk_eq_resume, hdone]
    rfl
  · obtain ⟨more, rfl⟩ : ∃ k, further = k + 1 := Nat.exists_eq_add_one.mpr (by omega)
    rw [walk_eq_resume, hadvance]
    exact walk_links_mono (Nat.le_of_succ_le_succ hle) honward

end BuildLauncher.Files

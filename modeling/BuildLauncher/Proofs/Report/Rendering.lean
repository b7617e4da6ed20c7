import BuildLauncher.Proofs.Report.Emission
import BuildLauncher.Proofs.Text.Borders

/-!
# Showing a report to people

A report can be shown if no text that is read as markup has an opening bracket (`render_ok`), and
what is visible of its message is then shown in order (`sublist_of_render`).
-/
namespace BuildLauncher.Report

open Text

section Paragraphs

variable {pieces lines : List Styled}

/-- Lines that fit are shown as they are. -/
theorem visible_showLines (h : ∀ line ∈ lines, Apart line ∧ cellWidth line.chars ≤ screenWidth) :
    visible (showLines lines) = lines.flatMap fun line => visible line.chars := by
  have hline : ∀ line ∈ lines, (boundRuns screenWidth line.runs).flatten = line.chars := by
    intro line hmem
    obtain ⟨hapart, hfits⟩ := h line hmem
    have hbound : ¬screenWidth < runsWidth line.runs :=
      Nat.not_lt.mpr ((runsWidth_runs_le hapart).trans hfits)
    rw [boundRuns, if_neg hbound, line.flatten_runs]
  have hbreak : visible ['\n'] = [] := by decide
  rw [showLines, List.map_congr_left hline, unlines, visible_flatMap, List.flatMap_map]
  simp only [visible_append, hbreak, List.append_nil]

theorem flatMap_intersperse {α β : Type} (f : α → List β) (separator : α) (l : List α) :
    (l.intersperse separator).flatMap f = (f separator).intercalate (l.map f) := by
  induction l with
  | nil => rfl
  | cons a rest ih =>
    cases rest with
    | nil => simp
    | cons b more =>
      rw [List.intersperse_cons_cons, List.flatMap_cons, List.flatMap_cons, ih]
      simp [List.intercalate_cons_cons]

theorem eq_or_mem_of_mem_intersperse {α : Type} {a separator : α} {l : List α}
    (h : a ∈ l.intersperse separator) : a = separator ∨ a ∈ l := by
  induction l with
  | nil => simp at h
  | cons b rest ih =>
    cases rest with
    | nil => exact .inr h
    | cons c more =>
      rw [List.intersperse_cons_cons, List.mem_cons, List.mem_cons] at h
      obtain rfl | rfl | h := h
      · exact .inr List.mem_cons_self
      · exact .inl rfl
      · exact (ih h).imp_right (List.mem_cons_of_mem b)

theorem eq_or_mem_of_mem_dropLast_intersperse {α : Type} {a separator : α} {l : List α}
    (h : a ∈ (l.intersperse separator).dropLast) : a = separator ∨ a ∈ l.dropLast := by
  induction l with
  | nil => simp at h
  | cons b rest ih =>
    cases rest with
    | nil => simp at h
    | cons c more =>
      obtain ⟨first, others, hmore⟩ : ∃ first others,
          (c :: more).intersperse separator = first :: others :=
        List.exists_cons_of_ne_nil (by cases more <;> simp)
      rw [List.intersperse_cons_cons, hmore, List.dropLast_cons_cons, List.dropLast_cons_cons,
        List.mem_cons, List.mem_cons, ← hmore] at h
      rw [List.dropLast_cons_cons, List.mem_cons]
      obtain rfl | rfl | h := h
      · exact .inr (.inl rfl)
      · exact .inl rfl
      · exact (ih h).imp_right .inr

/-- A piece that can be shown: its words are composed, and no style starts or ends after a joiner. -/
structure ShownWhole (piece : Styled) : Prop where
  bordered : Bordered piece
  composed : Composed piece.chars

theorem shown_literal {s : String} (h : Composed (dropControls s.toList)) : ShownWhole (literal s) :=
  ⟨bordered_bare _, h⟩

theorem shown_styled {s : String} (h : Composed (dropControls s.toList)) : ShownWhole (styled s) :=
  ⟨bordered_whole _, h⟩

/-- A paragraph shows what is visible of its pieces. -/
theorem visible_paragraph (h : ∀ piece ∈ pieces, ShownWhole piece)
    (hends : ∀ piece ∈ pieces.dropLast, piece.chars.getLast? ≠ some zeroWidthJoiner) :
    visible (paragraph pieces) = pieces.flatMap fun piece => visible piece.chars := by
  let text := Styled.concat (pieces.intersperse (.bare [' ']))
  have hblank : isBlank ' ' = true := by decide
  have hchars : text.chars = [' '].intercalate (pieces.map Styled.chars) := by
    rw [chars_concat]
    exact flatMap_intersperse ..
  have hcomposed : Composed text.chars := by
    rw [hchars, composed_intercalate hblank]
    exact List.forall_mem_map.mpr fun piece hpiece => (h piece hpiece).composed
  have hbordered : Bordered text := by
    refine bordered_concat (fun piece hpiece => ?_) fun piece hpiece => ?_
    · obtain rfl | hpiece := eq_or_mem_of_mem_intersperse hpiece
      · exact bordered_bare _
      · exact (h piece hpiece).bordered
    · obtain rfl | hpiece := eq_or_mem_of_mem_dropLast_intersperse hpiece
      · decide
      · exact hends piece hpiece
  have hwidth : 3 ≤ screenWidth := by decide
  obtain ⟨hlines, hfits⟩ := wrap_lines hwidth hcomposed
  have hapart := hbordered.wrap hwidth hcomposed
  calc visible (paragraph pieces)
    _ = (foldPieces pieces).flatMap fun line => visible line.chars :=
      visible_showLines fun line hline => ⟨hapart line hline, hfits line hline⟩
    _ = visible text.chars := hlines
    _ = pieces.flatMap fun piece => visible piece.chars := by
      rw [hchars, visible_intercalate hblank, List.flatMap_map]

end Paragraphs

section Markup

variable {pieces lines : List Styled} {s : String} {fields : Fields}

/-- A text without an opening bracket holds no markup. -/
theorem marked_of_no_bracket (h : '[' ∉ s.toList) :
    marked s = .ok (.bare (dropControls (replaceEmoji s.toList))) := by
  simp [marked, renderMarkup, h]

theorem checkLines_of_unnamed (h : ∀ line ∈ lines, Unnamed line) : checkLines lines = .ok () := by
  have hall : lines.forM checkStyles = .ok () := by
    induction lines with
    | nil => rfl
    | cons line rest ih =>
      obtain ⟨hline, hrest⟩ := List.forall_mem_cons.mp h
      rw [List.forM, checkStyles_of_unnamed hline]
      exact ih hrest
  rw [checkLines, hall, mapError_ok]

/-- Without names of styles a paragraph with markup is one without. -/
theorem markedParagraph_of_unnamed (h : ∀ piece ∈ pieces, Unnamed piece) :
    markedParagraph pieces = .ok (paragraph pieces) := by
  have hpieces : ∀ piece ∈ pieces.intersperse (.bare [' ']), Unnamed piece := by
    intro piece hpiece
    obtain rfl | hpiece := eq_or_mem_of_mem_intersperse hpiece
    · exact unnamed_bare _
    · exact h piece hpiece
  have hlines : ∀ line ∈ foldPieces pieces, Unnamed line := (unnamed_concat hpieces).wrap screenWidth
  rw [markedParagraph, checkLines_of_unnamed hlines]
  rfl

/-- Fields that are shown with nothing that opens a tag. -/
def Untagged (fields : Fields) : Prop := ∀ f ∈ fields, '[' ∉ (f.1 ++ f.2.display).toList

theorem entries_ok (heading : String) (h : Untagged fields) :
    ∃ shown, entries heading fields = .ok shown := by
  let entry (f : String × Value) : Except Failure (List Char) := do
    markedParagraph [← marked ("    " ++ f.1 ++ ": " ++ f.2.display)]
  have hentry : ∀ f ∈ fields, ∃ shown, entry f = .ok shown ∧ True := by
    intro f hf
    have hbracket : '[' ∉ ("    " ++ f.1 ++ ": " ++ f.2.display).toList := by
      have hfield := h f hf
      simp only [String.toList_append, List.mem_append, not_or] at hfield ⊢
      exact ⟨⟨⟨by decide, hfield.1⟩, by decide⟩, hfield.2⟩
    let shown := Styled.bare (dropControls (replaceEmoji ("    " ++ f.1 ++ ": " ++ f.2.display).toList))
    have hmarked : marked ("    " ++ f.1 ++ ": " ++ f.2.display) = .ok shown :=
      marked_of_no_bracket hbracket
    have hparagraph : markedParagraph [shown] = .ok (paragraph [shown]) :=
      markedParagraph_of_unnamed (List.forall_mem_singleton.mpr (unnamed_bare _))
    exact ⟨paragraph [shown], by simp only [entry, hmarked, ok_bind, hparagraph], trivial⟩
  obtain ⟨lines, hlines, -⟩ := exists_mapM_ok hentry
  have hentries : entries heading fields = (do
      let lines ← fields.mapM entry
      return paragraph [styled heading] ++ lines.flatten) := rfl
  exact ⟨_, by rw [hentries, hlines, ok_bind]; rfl⟩

end Markup

section Mounts

/-- A text with a colon goes on after its last one. -/
theorem exists_after_last_colon {s : String} (h : ':' ∈ s.toList) :
    ∃ before last, s = before ++ ":" ++ last ∧ ':' ∉ last.toList := by
  obtain ⟨last, before, hsplit, hlast⟩ := List.eq_append_cons_of_mem (List.mem_reverse.mpr h)
  refine ⟨String.ofList before.reverse, String.ofList last.reverse, ?_, by simpa using hlast⟩
  rw [← String.toList_inj, ← List.reverse_reverse s.toList, hsplit]
  simp

/-- Three parts that colons join are divided again, if the second one has no colon. -/
theorem splitMount_joined {source destination : String} (h : ':' ∉ destination.toList)
    (mode : MountMode) :
    splitMount (.text (source ++ ":" ++ destination ++ ":" ++ mode.text)) =
      .ok [source, destination, mode.text] := by
  have hmode : mode.text.toList.splitOn ':' = [mode.text.toList] := by
    cases mode <;> rfl
  have hparts : (source ++ ":" ++ destination ++ ":" ++ mode.text).toList.splitOn ':' =
      source.toList.splitOn ':' ++ [destination.toList, mode.text.toList] := by
    have hjoined : (source ++ ":" ++ destination ++ ":" ++ mode.text).toList =
        source.toList ++ ':' :: (destination.toList ++ ':' :: mode.text.toList) := by
      simp
    rw [hjoined, List.splitOn_append_cons_self, List.splitOn_append_cons_self, hmode,
      List.splitOn_eq_singleton h]
    rfl
  obtain ⟨first, more, hfirst⟩ :=
    List.exists_cons_of_ne_nil (mt List.reverse_eq_nil_iff.mp (List.splitOn_ne_nil ':' source.toList))
  have hsource : [':'].intercalate (more.reverse ++ [first]) = source.toList := by
    rw [← List.reverse_cons, ← hfirst, List.reverse_reverse, List.intercalate_splitOn]
  simp only [splitMount, hparts, List.reverse_append, hfirst]
  simp [hsource]

/-- A mount is divided into three parts, and none of them has a bracket that the mount has not. -/
theorem splitMount_spec (m : Mount) : ∃ source destination mode,
    splitMount (.text m.spec) = .ok [source, destination, mode] ∧
      ('[' ∉ m.spec.toList → '[' ∉ source.toList ∧ '[' ∉ destination.toList) := by
  by_cases hcolon : ':' ∈ m.destination.toList
  · obtain ⟨before, last, hdestination, hlast⟩ := exists_after_last_colon hcolon
    have hspec : m.spec = m.source ++ ":" ++ before ++ ":" ++ last ++ ":" ++ m.mode.text := by
      simp [Mount.spec, hdestination, String.append_assoc]
    refine ⟨_, _, _, hspec ▸ splitMount_joined hlast m.mode, fun h => ?_⟩
    rw [hspec] at h
    simp_all
  · refine ⟨_, _, _, splitMount_joined hcolon m.mode, fun h => ?_⟩
    simp only [Mount.spec, String.toList_append, List.mem_append, not_or] at h
    exact ⟨h.1.1.1.1, h.1.1.2⟩

theorem forall_mem_zipWith {α β γ : Type} {f : α → β → γ} {good : γ → Prop} {as : List α}
    {bs : List β} (h : ∀ a ∈ as, ∀ b ∈ bs, good (f a b)) : ∀ c ∈ List.zipWith f as bs, good c := by
  induction as generalizing bs with
  | nil => simp
  | cons a as ih =>
    cases bs with
    | nil => simp
    | cons b bs =>
      rw [List.zipWith_cons_cons]
      exact List.forall_mem_cons.mpr ⟨h a (by simp) b (by simp), ih fun a ha b hb =>
        h a (List.mem_cons_of_mem _ ha) b (List.mem_cons_of_mem _ hb)⟩

theorem mountCells_ok {mounts : List (List String)}
    (h : ∀ parts ∈ mounts, '[' ∉ (parts.getD 0 "").toList ∧ '[' ∉ (parts.getD 1 "").toList) :
    ∃ cells, mountCells mounts = .ok cells ∧ ∀ row ∈ cells, ∀ cell ∈ row, Unnamed cell := by
  have hcolumn (i : Nat) (hclean : ∀ parts ∈ mounts, '[' ∉ (parts.getD i "").toList) :
      ∃ cells, (mounts.map fun parts => parts.getD i "").mapM marked = .ok cells ∧
        ∀ cell ∈ cells, Unnamed cell :=
    exists_mapM_ok (List.forall_mem_map.mpr fun parts hparts =>
      ⟨_, marked_of_no_bracket (hclean parts hparts), unnamed_bare _⟩)
  obtain ⟨sources, hsources, hplain⟩ := hcolumn 0 fun parts hparts => (h parts hparts).1
  obtain ⟨destinations, hdestinations, hmore⟩ := hcolumn 1 fun parts hparts => (h parts hparts).2
  refine ⟨_, by simp only [mountCells, hsources, hdestinations, ok_bind]; rfl, ?_⟩
  refine forall_mem_zipWith fun source hsource rest hrest => List.forall_mem_cons.mpr
    ⟨hplain source hsource, ?_⟩
  have hrests : ∀ rest ∈ List.zipWith (fun destination mode => [destination, mode]) destinations
      ((mounts.map fun parts => parts.getD 2 "").map literal), ∀ cell ∈ rest, Unnamed cell := by
    refine forall_mem_zipWith fun destination hdestination mode hmode => List.forall_mem_cons.mpr
      ⟨hmore destination hdestination, List.forall_mem_singleton.mpr ?_⟩
    obtain ⟨text, -, rfl⟩ := List.mem_map.mp hmode
    exact unnamed_bare _
  exact hrests rest hrest

theorem unnamed_tableTexts {limit : Nat} {rows : List (List Styled)}
    (h : ∀ row ∈ rows, ∀ cell ∈ row, Unnamed cell) : ∀ line ∈ tableTexts limit rows, Unnamed line := by
  intro line hline
  obtain ⟨row, hrow, hline⟩ := List.mem_flatMap.mp hline
  obtain ⟨lines, hlines, hline⟩ := List.mem_flatten.mp hline
  have hcells : ∀ lines ∈ List.zipWith cellTexts (tableWidths limit rows) row,
      ∀ line ∈ lines, Unnamed line := by
    refine forall_mem_zipWith fun width _ cell hcell => ?_
    unfold cellTexts
    dsimp only
    split
    · simp
    · exact (h row hrow cell hcell).wrapCell _
  exact hcells lines hlines line hline

/-- The table of mounts without brackets can be shown. -/
theorem mountTable_ok {mounts : List Mount} (h : ∀ m ∈ mounts, '[' ∉ m.spec.toList) :
    ∃ shown, mountTable (.list (mounts.map fun m => .text m.spec)) = .ok shown := by
  obtain ⟨split, hsplit, hclean⟩ : ∃ split,
      (mounts.map fun m => .text m.spec).mapM splitMount = .ok split ∧ ∀ parts ∈ split,
        '[' ∉ (parts.getD 0 "").toList ∧ '[' ∉ (parts.getD 1 "").toList := by
    refine exists_mapM_ok (List.forall_mem_map.mpr fun m hm => ?_)
    obtain ⟨source, destination, mode, hsplit, hclean⟩ := splitMount_spec m
    exact ⟨_, hsplit, hclean (h m hm)⟩
  obtain ⟨cells, hcells, hunnamed⟩ := mountCells_ok hclean
  have hheader : ∀ cell ∈ ["Source", "Destination", "Mode"].map literal, Unnamed cell :=
    List.forall_mem_map.mpr fun text _ => unnamed_bare _
  have htexts : ∀ line ∈ tableTexts screenWidth (["Source", "Destination", "Mode"].map literal :: cells),
      Unnamed line := unnamed_tableTexts (List.forall_mem_cons.mpr ⟨hheader, hunnamed⟩)
  simp only [mountTable, mountsOf, ok_bind, hsplit, hcells, checkLines_of_unnamed htexts]
  exact ⟨_, rfl⟩

end Mounts

/-- What a report must keep from the texts that are read as markup, so that it can be shown. -/
structure Showable (r : Report) (verbose : Bool) : Prop where
  message : r.ok = false → '[' ∉ (errorMessage r).toList
  detail : ∀ e, r.error = some e → Untagged e.detail
  info : ∀ info, r.info = some info → Untagged info
  mounts : r.ok = true → r.op = "plan" ∨ (r.op = "launch" ∧ verbose = true) →
    ∃ shown, mountLines r = .ok shown

theorem infoLines_ok {r : Report} (h : ∀ info, r.info = some info → Untagged info) :
    ∃ shown, infoLines r = .ok shown := by
  unfold infoLines
  split
  · exact ⟨_, rfl⟩
  · exact ⟨_, rfl⟩
  · next info _ hinfo =>
    obtain ⟨shown, hshown⟩ := entries_ok "  meta:" (h info hinfo)
    exact ⟨_, by rw [hshown]; rfl⟩

/-- The pieces of the line that tells of a failure. -/
def errorPieces (r : Report) : List Styled :=
  [styled "ERROR", styled ("  " ++ r.op), literal " — ",
    .bare (dropControls (replaceEmoji (errorMessage r).toList))]

/-- A failure is told in a line, and its detail follows. -/
theorem renderError_eq {r : Report} (h : '[' ∉ (errorMessage r).toList) (verbose : Bool) :
    renderError r verbose =
      match r.error with
      | some e =>
        if verbose && !e.detail.isEmpty then
          (entries "  detail:" e.detail).map (paragraph (errorPieces r) ++ ·)
        else .ok (paragraph (errorPieces r))
      | none => .ok (paragraph (errorPieces r)) := by
  have hpieces : ∀ piece ∈ errorPieces r, Unnamed piece := by
    simp [errorPieces, styled, literal]
  have hhead : markedParagraph [styled "ERROR", styled ("  " ++ r.op), literal " — ",
      .bare (dropControls (replaceEmoji (errorMessage r).toList))] =
        .ok (paragraph (errorPieces r)) :=
    markedParagraph_of_unnamed hpieces
  simp only [renderError, marked_of_no_bracket h, ok_bind, hhead]
  cases r.error with
  | none => rfl
  | some e =>
    dsimp only
    split
    · cases entries "  detail:" e.detail <;> rfl
    · rfl

/-- A report without tags can be shown. -/
theorem render_ok {r : Report} {verbose : Bool} (h : Showable r verbose) :
    ∃ text, render r verbose = .ok text := by
  obtain ⟨info, hinfo⟩ := infoLines_ok h.info
  unfold render
  cases hok : r.ok with
  | false =>
    obtain ⟨shown, hshown⟩ : ∃ shown, renderError r verbose = .ok shown := by
      rw [renderError_eq (h.message hok)]
      split
      · next e he =>
        obtain ⟨detail, hdetail⟩ := entries_ok "  detail:" (h.detail e he)
        rw [hdetail]
        split <;> exact ⟨_, rfl⟩
      · exact ⟨_, rfl⟩
    exact ⟨_, by rw [Bool.not_false, if_pos rfl, hshown]; rfl⟩
  | true =>
    have hmounts := h.mounts hok
    rw [Bool.not_true, if_neg Bool.false_ne_true]
    split
    · cases verbose with
      | false => exact ⟨_, rfl⟩
      | true => exact ⟨_, by rw [renderBuild, if_pos rfl, hinfo]; rfl⟩
    · split
      · next hop =>
        cases verbose with
        | false => exact ⟨_, rfl⟩
        | true =>
          obtain ⟨table, htable⟩ := hmounts (.inr ⟨hop, rfl⟩)
          exact ⟨_, by simp only [renderLaunch, if_true, htable, hinfo]; rfl⟩
      · split
        · next hop =>
          obtain ⟨table, htable⟩ := hmounts (.inl hop)
          exact ⟨_, by simp only [renderPlan, htable]; rfl⟩
        · cases verbose with
          | false => exact ⟨_, rfl⟩
          | true => exact ⟨_, by rw [renderOther, if_pos rfl, hinfo]; rfl⟩

section Faults

variable {α β : Type} {x : Except Failure α} {next : α → Except Failure β}

/-- Nothing but markup can be wrong. -/
def OnlyMarkup (x : Except Failure α) : Prop := ∀ f, x = .error f → ∃ fault, f = .markup fault

theorem onlyMarkup_ok (a : α) : OnlyMarkup (.ok a) := fun _ h => nomatch h

theorem onlyMarkup_mapError (x : Except MarkupFault α) : OnlyMarkup (x.mapError .markup) := by
  intro f hf
  cases x with
  | error fault => exact ⟨fault, (Except.error.inj hf).symm⟩
  | ok a => nomatch hf

theorem OnlyMarkup.bind (hx : OnlyMarkup x) (hnext : ∀ a, OnlyMarkup (next a)) :
    OnlyMarkup (x >>= next) := by
  intro f hf
  obtain hf | ⟨a, -, hf⟩ := bind_eq_error.mp hf
  · exact hx f hf
  · exact hnext a f hf

theorem onlyMarkup_mapM {step : α → Except Failure β} {l : List α}
    (h : ∀ a ∈ l, OnlyMarkup (step a)) : OnlyMarkup (l.mapM step) := by
  induction l with
  | nil => exact onlyMarkup_ok _
  | cons a rest ih =>
    obtain ⟨ha, hrest⟩ := List.forall_mem_cons.mp h
    rw [List.mapM_cons]
    exact ha.bind fun _ => (ih hrest).bind fun _ => onlyMarkup_ok _

theorem onlyMarkup_markedParagraph (pieces : List Styled) : OnlyMarkup (markedParagraph pieces) :=
  (onlyMarkup_mapError _).bind fun _ => onlyMarkup_ok _

theorem onlyMarkup_entries (heading : String) (fields : Fields) :
    OnlyMarkup (entries heading fields) :=
  (onlyMarkup_mapM fun _ _ => (onlyMarkup_mapError _).bind fun _ =>
    onlyMarkup_markedParagraph _).bind fun _ => onlyMarkup_ok _

theorem onlyMarkup_infoLines (r : Report) : OnlyMarkup (infoLines r) := by
  unfold infoLines
  split
  · exact onlyMarkup_ok _
  · exact onlyMarkup_ok _
  · exact (onlyMarkup_entries _ _).bind fun _ => onlyMarkup_ok _

theorem onlyMarkup_mountTable (mounts : List Mount) :
    OnlyMarkup (mountTable (.list (mounts.map fun m => .text m.spec))) := by
  obtain ⟨split, hsplit, -⟩ : ∃ split,
      (mounts.map fun m => .text m.spec).mapM splitMount = .ok split ∧ ∀ parts ∈ split, True := by
    refine exists_mapM_ok (List.forall_mem_map.mpr fun m _ => ?_)
    obtain ⟨source, destination, mode, hsplit, -⟩ := splitMount_spec m
    exact ⟨_, hsplit, trivial⟩
  have hcolumn (texts : List String) : OnlyMarkup (texts.mapM marked) :=
    onlyMarkup_mapM fun _ _ => onlyMarkup_mapError _
  have hcells : OnlyMarkup (mountCells split) :=
    (hcolumn _).bind fun _ => (hcolumn _).bind fun _ => onlyMarkup_ok _
  simp only [mountTable, mountsOf, ok_bind, hsplit]
  exact hcells.bind fun _ => (onlyMarkup_mapError _).bind fun _ => onlyMarkup_ok _

/-- Showing a report fails at markup only, if its table of mounts does. -/
theorem onlyMarkup_render {r : Report} (hmounts : r.op ≠ "build_image" → OnlyMarkup (mountLines r))
    (verbose : Bool) : OnlyMarkup (render r verbose) := by
  have hinfo (shown : List Char) : OnlyMarkup (do return shown ++ (← infoLines r)) :=
    (onlyMarkup_infoLines r).bind fun _ => onlyMarkup_ok _
  have hdetailed (shown : List Char) : OnlyMarkup (do
      if verbose then return shown ++ (← infoLines r)
      return shown) := by
    cases verbose with
    | false => exact onlyMarkup_ok _
    | true => exact hinfo _
  have herror : OnlyMarkup (renderError r verbose) := by
    refine (onlyMarkup_mapError _).bind fun _ => (onlyMarkup_markedParagraph _).bind fun head => ?_
    split
    · split
      · exact (onlyMarkup_entries _ _).bind fun _ => onlyMarkup_ok _
      · exact onlyMarkup_ok _
    · exact onlyMarkup_ok _
  have hlaunch (hop : r.op = "launch") : OnlyMarkup (renderLaunch r verbose) := by
    have hmounts := hmounts (by simp [hop])
    unfold renderLaunch
    cases verbose with
    | false => exact onlyMarkup_ok _
    | true => exact hmounts.bind fun _ => hinfo _
  have hplan (hop : r.op = "plan") : OnlyMarkup (renderPlan r) :=
    (hmounts (by simp [hop])).bind fun _ => onlyMarkup_ok _
  unfold render
  split
  · exact herror.bind fun _ => onlyMarkup_ok _
  · split
    · exact OnlyMarkup.bind (hdetailed _) fun _ => onlyMarkup_ok _
    · split
      · next hop => exact (hlaunch hop).bind fun _ => onlyMarkup_ok _
      · split
        · next hop => exact (hplan hop).bind fun _ => onlyMarkup_ok _
        · exact OnlyMarkup.bind (hdetailed _) fun _ => onlyMarkup_ok _

end Faults

section Messages

variable {r : Report} {verbose : Bool} {text : String}

/-- A text that is shown as it stands, but perhaps for its blanks: nothing in it is read as markup or
as a code, or taken by a terminal. -/
structure Legible (s : String) : Prop where
  untagged : '[' ∉ s.toList
  uncoded : replaceEmoji s.toList = s.toList
  printed : visible (dropControls s.toList) = visible s.toList
  steady : Steady s.toList
  unescaped : Unescaped s.toList

/-- A legible text is shown whole. -/
theorem Legible.visible_shown {s : String} (h : Legible s) :
    visible (dropControls (replaceEmoji s.toList)) = visible s.toList := by
  rw [h.uncoded, h.printed]

/-- What is visible of the line for a failure: the operation and the message. -/
theorem visible_errorPieces (hop : Legible r.op) (hmessage : Legible (errorMessage r)) :
    visible (paragraph (errorPieces r)) =
      "ERROR".toList ++ visible r.op.toList ++ ['—'] ++ visible (errorMessage r).toList := by
  have hopShown : visible (dropControls ("  " ++ r.op).toList) = visible r.op.toList := by
    have hblanks : visible (dropControls "  ".toList) = [] := by decide
    rw [String.toList_append, dropControls, List.filter_append, visible_append]
    exact (congrArg₂ _ hblanks hop.printed).trans (List.nil_append _)
  have hmark : Steady (styled "ERROR").chars := by decide
  have hseparator : Steady (literal " — ").chars := by decide
  have hopSteady : Steady (styled ("  " ++ r.op)).chars := hop.steady.of_visible_eq hopShown
  have hmessageSteady : Steady (dropControls (replaceEmoji (errorMessage r).toList)) :=
    hmessage.steady.of_visible_eq hmessage.visible_shown
  have hpieces : ∀ piece ∈ errorPieces r, ShownWhole piece := by
    simp only [errorPieces, List.forall_mem_cons]
    exact ⟨shown_styled hmark.composed, shown_styled hopSteady.composed,
      shown_literal hseparator.composed, ⟨bordered_bare _, hmessageSteady.composed⟩, by simp⟩
  have hends : ∀ piece ∈ (errorPieces r).dropLast,
      piece.chars.getLast? ≠ some zeroWidthJoiner := by
    simp only [errorPieces, List.dropLast_cons_cons, List.dropLast_singleton, List.forall_mem_cons]
    exact ⟨hmark.getLast?_ne, hopSteady.getLast?_ne, hseparator.getLast?_ne, by simp⟩
  have hdash : visible (dropControls " — ".toList) = ['—'] := by decide
  have herror : visible (dropControls "ERROR".toList) = "ERROR".toList := by decide
  rw [visible_paragraph hpieces hends]
  simp only [errorPieces, List.flatMap_cons, List.flatMap_nil, List.append_nil, styled, literal,
    Styled.whole, Styled.bare, hopShown, hmessage.visible_shown, hdash, herror, List.append_assoc]

/-- What starts a text is written whole, but for blanks at its end. -/
theorem sublist_line {head : List Char} (h : Unescaped head) (more : List Char) :
    (visible head).Sublist
      (line (String.ofList (dropEndWhile (· = '\n') (head ++ more)))).toList := by
  obtain ⟨ending, htext, hbreaks⟩ := exists_dropEndWhile_append (· = '\n') (head ++ more)
  have hblank : visible ending = [] := visible_eq_nil_iff.mpr fun c hc => by
    have hbreak : c = '\n' := by simpa using hbreaks c hc
    rw [hbreak]
    decide
  generalize dropEndWhile (· = '\n') (head ++ more) = shown at htext
  rw [line, plain, String.toList_append, String.toList_ofList, String.toList_ofList]
  refine List.Sublist.trans ?_ (List.sublist_append_left _ _)
  obtain ⟨rest, rfl⟩ | ⟨rest, rfl⟩ := List.prefix_or_prefix_of_prefix (List.prefix_append head more)
    (htext ▸ List.prefix_append shown ending)
  · rw [plainFrom_append h]
    exact List.filter_sublist.trans (List.sublist_append_left _ _)
  · rw [List.append_assoc, List.append_cancel_left_eq] at htext
    rw [← htext, visible_append, List.append_eq_nil_iff] at hblank
    rw [plainFrom_of_no_escape fun c hc => h c (List.mem_append_left _ hc), visible_append, hblank.1,
      List.append_nil]
    exact List.filter_sublist

/-- A failure starts with its line. -/
theorem exists_eq_of_render (hbad : r.ok = false) (hmessage : '[' ∉ (errorMessage r).toList)
    (h : render r verbose = .ok text) : ∃ more, text =
      String.ofList (dropEndWhile (· = '\n') (paragraph (errorPieces r) ++ more)) := by
  rw [render, hbad, Bool.not_false, if_pos rfl, renderError_eq hmessage] at h
  obtain ⟨shown, hshown, hpure⟩ := bind_eq_ok h
  have htext : String.ofList (dropEndWhile (· = '\n') shown) = text := Except.ok.inj hpure
  obtain ⟨more, hmore⟩ : ∃ more, shown = paragraph (errorPieces r) ++ more := by
    split at hshown
    · split at hshown
      · obtain ⟨detail, -, hdetail⟩ := map_eq_ok hshown
        exact ⟨detail, hdetail.symm⟩
      · exact ⟨[], by rw [← Except.ok.inj hshown, List.append_nil]⟩
    · exact ⟨[], by rw [← Except.ok.inj hshown, List.append_nil]⟩
  exact ⟨more, by rw [← htext, hmore]⟩

/-- The message of a failure is shown whole to people. -/
theorem sublist_of_render (hbad : r.ok = false) (hop : Legible r.op)
    (hmessage : Legible (errorMessage r)) (h : render r verbose = .ok text) :
    (visible (errorMessage r).toList).Sublist (line text).toList := by
  obtain ⟨more, rfl⟩ := exists_eq_of_render hbad hmessage.untagged h
  have hvisible := visible_errorPieces hop hmessage
  have hblank (c : Char) (hc : isBlank c = true) : isEscape c = false := by
    refine Bool.eq_false_iff.mpr fun hescape => ?_
    have hcode : c.toNat = 0x1B := by simpa [isEscape] using hescape
    rw [isBlank, hcode] at hc
    exact absurd hc (by decide)
  have hmark : Unescaped "ERROR".toList := by decide
  have hescape : Unescaped (paragraph (errorPieces r)) := by
    refine (forall_mem_visible hblank).mp ?_
    rw [hvisible]
    simp only [List.forall_mem_append, List.forall_mem_singleton]
    exact ⟨⟨⟨hmark, fun c hc => hop.unescaped c (mem_visible.mp hc).1⟩, by decide⟩,
      fun c hc => hmessage.unescaped c (mem_visible.mp hc).1⟩
  have hmessageShown : (visible (errorMessage r).toList).Sublist
      (visible (paragraph (errorPieces r))) := by
    rw [hvisible]
    exact List.sublist_append_right _ _
  exact hmessageShown.trans (sublist_line hescape more)

end Messages

end BuildLauncher.Report

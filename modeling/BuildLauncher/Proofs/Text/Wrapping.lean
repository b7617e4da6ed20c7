import BuildLauncher.Proofs.Text.Widths

/-!
# Wrapping loses blanks only

A text that is wrapped shows all its visible characters in order, in lines that fit (`wrap_lines`), if
no joiner or selector stands in a word before the first character that takes cells.
-/
namespace BuildLauncher.Text

section Words

variable {s line : List Char} {ws : List (List Char)} {width used : Nat}

theorem flatten_wordsFrom {state : WordState} (h : state ≠ .before) (word s : List Char) :
    (wordsFrom state word s).flatten = word.reverse ++ s := by
  induction s generalizing state word with
  | nil => simp [wordsFrom, h]
  | cons c rest ih =>
    cases state with
    | before => exact absurd rfl h
    | inside =>
      have hnext : (if isBlank c then WordState.after else .inside) ≠ .before := by
        split <;> exact WordState.noConfusion
      rw [wordsFrom, ih hnext, List.reverse_cons, List.append_assoc]
      rfl
    | after =>
      rw [wordsFrom]
      split
      · rw [ih WordState.noConfusion, List.reverse_cons, List.append_assoc]
        rfl
      · rw [List.flatten_cons, ih WordState.noConfusion]
        rfl

/-- A text is blank and has no words, or its words make it up. -/
theorem words_cases (s : List Char) : (visible s = [] ∧ words s = []) ∨ (words s).flatten = s := by
  have hfrom (word : List Char) : (visible s = [] ∧ wordsFrom .before word s = []) ∨
      (wordsFrom .before word s).flatten = word.reverse ++ s := by
    induction s generalizing word with
    | nil => exact .inl ⟨rfl, rfl⟩
    | cons c rest ih =>
      rw [wordsFrom, visible_cons]
      cases isBlank c with
      | true => simpa using ih (c :: word)
      | false =>
        have hinside : WordState.inside ≠ .before := WordState.noConfusion
        right
        simp [flatten_wordsFrom hinside]
  exact hfrom []

theorem fillLines_ne_nil (overflow : Overflow) (width : Nat) (line : List Char) (used : Nat)
    (ws : List (List Char)) : fillLines overflow width line used ws ≠ [] := by
  fun_induction fillLines overflow width line used ws <;> simp_all

/-- The words of a text count by themselves as they do together: blanks divide them. -/
theorem seamed_wordsFrom {state : WordState} {word : List Char} (h : Composed (word.reverse ++ s))
    (hafter : state = .after → ∃ b rest, word = b :: rest ∧ isBlank b = true) :
    Seamed (wordsFrom state word s) := by
  induction s generalizing state word with
  | nil =>
    rw [wordsFrom]
    rw [List.append_nil] at h
    split
    · exact seamed_nil
    · exact seamed_cons.mpr ⟨h.anchored, by simp, seamed_nil⟩
  | cons c rest ih =>
    have hnext : Composed ((c :: word).reverse ++ rest) := by
      rwa [List.reverse_cons, List.append_assoc]
    cases state with
    | before => exact ih hnext fun hstate => by split at hstate <;> contradiction
    | inside =>
      refine ih hnext fun hstate => ⟨c, word, rfl, ?_⟩
      split at hstate
      · assumption
      · contradiction
    | after =>
      rw [wordsFrom]
      split
      · next hc => exact ih hnext fun _ => ⟨c, word, rfl, hc⟩
      · obtain ⟨b, more, rfl, hb⟩ := hafter rfl
        rw [List.reverse_cons, List.append_assoc] at h
        obtain ⟨hword, hrest⟩ := (composed_append hb).mp h
        have hends : Composed (more.reverse ++ [b]) := (composed_append hb).mpr ⟨hword, composed_nil⟩
        rw [List.reverse_cons]
        exact seamed_cons.mpr ⟨hends.anchored,
          fun _ => closed_concat (isSteady_iff.mp (isSteady_of_isBlank hb)).1,
          ih hrest fun hstate => by contradiction⟩

/-- A word that still fits after a line fits with it. -/
theorem wordWidth_append_le {word : List Char} (hline : Closed line) (hword : Anchored word)
    (hfits : wordWidth line ≤ width) (hboth : cellWidth line + wordWidth word ≤ width) :
    wordWidth (line ++ word) ≤ width := by
  by_cases hvisible : visible word = []
  · rwa [wordWidth_append_blank hvisible]
  · rwa [wordWidth_append hline hword hvisible]

/-- A word that is too wide is chopped into pieces that fit, and the last of them goes on. -/
theorem exists_chop {word : List Char} (hwidth : 3 ≤ width) (hword : Anchored word)
    (hwide : ¬wordWidth word ≤ width) : ∃ pieces last, chop width word = pieces ++ [last] ∧
      pieces.flatten ++ last = word ∧ Closed pieces.flatten ∧
      (∀ piece ∈ pieces, wordWidth piece ≤ width ∧ Anchored piece) ∧
      wordWidth last ≤ width ∧ Anchored last := by
  have hcells := wordWidth_le_cellWidth word
  obtain ⟨hpieces, hfits, hseamed⟩ := flatten_chop hwidth hword (by omega)
  have hne : chop width word ≠ [] := by
    intro hnil
    rw [hnil, List.flatten_nil] at hpieces
    rw [← hpieces] at hwide
    exact hwide (Nat.zero_le _)
  obtain ⟨pieces, last, hchop⟩ : ∃ pieces last, chop width word = pieces ++ [last] :=
    ⟨_, _, (List.dropLast_concat_getLast hne).symm⟩
  rw [hchop] at hpieces hfits hseamed
  have hall : ∀ piece ∈ pieces ++ [last], wordWidth piece ≤ width ∧ Anchored piece :=
    fun piece hpiece => ⟨(wordWidth_le_cellWidth piece).trans (hfits piece hpiece),
      hseamed.anchored piece hpiece⟩
  rw [List.forall_mem_append, List.forall_mem_singleton] at hall
  have hclosed : Closed pieces.flatten := closed_flatten fun piece hpiece =>
    hseamed.closed piece (by rwa [List.dropLast_concat])
  rw [List.flatten_append, List.flatten_singleton] at hpieces
  exact ⟨pieces, last, hchop, hpieces, hclosed, hall⟩

/-- Lines of words: they make up the words, and none is too wide but for blanks at its end. -/
theorem fillLines_lines (hwidth : 3 ≤ width) (hseamed : Seamed (line :: ws))
    (hused : cellWidth line = used) (hfits : wordWidth line ≤ width) :
    (fillLines .fold width line used ws).flatten = line ++ ws.flatten ∧
      ∀ l ∈ fillLines .fold width line used ws, wordWidth l ≤ width ∧ Anchored l := by
  induction ws generalizing line used with
  | nil =>
    obtain ⟨hline, -⟩ := seamed_cons.mp hseamed
    simp [fillLines, hfits, hline]
  | cons word rest ih =>
    obtain ⟨hline, hlineClosed, hseamed⟩ := seamed_cons.mp hseamed
    obtain ⟨hword, hwordClosed, hrest⟩ := seamed_cons.mp hseamed
    replace hlineClosed := hlineClosed (List.cons_ne_nil _ _)
    have hbefore : (if line.isEmpty then [] else [line]).flatten = line := by
      split <;> simp_all
    have hbeforeFits : ∀ l ∈ if line.isEmpty then [] else [line], wordWidth l ≤ width ∧ Anchored l := by
      split <;> simp [hfits, hline]
    rw [fillLines, List.flatten_cons]
    dsimp only
    generalize (if line.isEmpty then [] else [line]) = before at hbefore hbeforeFits
    split
    · next hroom =>
      have hlonger : cellWidth (line ++ word) = used + cellWidth word := by
        rw [cellWidth_append hlineClosed hword, hused]
      have hboth : Seamed ((line ++ word) :: rest) := seamed_cons.mpr ⟨hline.append hword,
        fun hne => (closed_append hlineClosed).mpr (hwordClosed hne), hrest⟩
      obtain ⟨hflat, hlines⟩ := ih hboth hlonger
        (wordWidth_append_le hlineClosed hword hfits (hused ▸ hroom))
      exact ⟨by rw [hflat, List.append_assoc], hlines⟩
    · split
      · next hfitsAlone =>
        obtain ⟨hflat, hlines⟩ := ih hseamed rfl hfitsAlone
        exact ⟨by rw [List.flatten_append, hbefore, hflat],
          List.forall_mem_append.mpr ⟨hbeforeFits, hlines⟩⟩
      · next hwide =>
        obtain ⟨pieces, last, hchop, hpieces, hpieceClosed, hfitting, hlastFits, hlastAnchored⟩ :=
          exists_chop hwidth hword hwide
        have hlast : Seamed (last :: rest) := seamed_cons.mpr ⟨hlastAnchored,
          fun hsome => (closed_append hpieceClosed).mp (hpieces ▸ hwordClosed hsome), hrest⟩
        obtain ⟨hflat, hlines⟩ := ih hlast rfl hlastFits
        simp only [hchop, List.dropLast_concat, List.getLastD_concat, List.forall_mem_append]
        refine ⟨?_, ⟨hbeforeFits, hfitting⟩, hlines⟩
        rw [List.flatten_append, List.flatten_append, hbefore, hflat, ← hpieces]
        simp only [List.append_assoc]

/-- The parts of a divided line make it up, and none is too wide but for blanks at its end. -/
theorem divide_parts (hwidth : 3 ≤ width) (hs : Composed s) :
    divide .fold width s ≠ [] ∧ (divide .fold width s).flatten = s ∧
      ∀ part ∈ divide .fold width s, wordWidth part ≤ width ∧ Anchored part := by
  unfold divide
  obtain ⟨hblank, hwords⟩ | hwords := words_cases s
  · rw [hwords]
    simp [wordWidth_eq_zero hblank, hs.anchored]
  · split
    · next hnone =>
      obtain rfl : [] = s := by rwa [hnone] at hwords
      exact ⟨List.cons_ne_nil _ _, rfl, List.forall_mem_singleton.mpr ⟨Nat.zero_le _, anchored_nil⟩⟩
    · have hseamed : Seamed ([] :: words s) := seamed_cons.mpr ⟨anchored_nil, fun _ => closed_nil,
        seamed_wordsFrom hs fun hstate => by contradiction⟩
      obtain ⟨hflat, hlines⟩ := fillLines_lines hwidth hseamed rfl (Nat.zero_le _)
      exact ⟨fillLines_ne_nil _ _ _ _ _, hflat.trans hwords, hlines⟩

end Words

section Slices

variable {t : Styled} {parts : List (List Char)} {start : Nat}

theorem map_slicesFrom (h : t.chars.drop start = parts.flatten) :
    (t.slicesFrom start (parts.map List.length)).map Styled.chars = parts := by
  induction parts generalizing start with
  | nil => rfl
  | cons part rest ih =>
    rw [List.flatten_cons] at h
    have hrest : t.chars.drop (start + part.length) = rest.flatten := by
      rw [← List.drop_drop, h, List.drop_left]
    have hpart : (t.slice start part.length).chars = part := by
      rw [Styled.slice, h, List.take_left]
    rw [List.map_cons, Styled.slicesFrom, List.map_cons, hpart, ih hrest]

/-- A text that is cut where parts end shows the parts. -/
theorem map_cut (hparts : parts ≠ []) (h : parts.flatten = t.chars) :
    (t.cut (parts.map List.length)).map Styled.chars = parts := by
  unfold Styled.cut
  split
  · next hone =>
    obtain ⟨part, rfl⟩ : ∃ part, parts = [part] := by
      match parts, hone with
      | [part], _ => exact ⟨part, rfl⟩
    simpa using h.symm
  · exact map_slicesFrom h.symm

/-- The lines of a text are what stands between its newlines. -/
theorem map_splitLines (t : Styled) : t.splitLines.map Styled.chars = t.chars.splitOn '\n' := by
  have hgo (parts : List (List Char)) (start : Nat)
      (h : parts = [] ∨ t.chars.drop start = ['\n'].intercalate parts) :
      (Styled.splitLines.go t start (parts.map List.length)).map Styled.chars = parts := by
    induction parts generalizing start with
    | nil => rfl
    | cons part rest ih =>
      replace h := h.resolve_left (List.cons_ne_nil _ _)
      have hpart : (t.slice start part.length).chars = part := by
        rw [Styled.slice, h]
        cases rest <;> simp
      have hrest : rest = [] ∨ t.chars.drop (start + part.length + 1) = ['\n'].intercalate rest := by
        cases rest with
        | nil => exact .inl rfl
        | cons next more =>
          right
          rw [Nat.add_assoc, ← List.drop_drop, h]
          simp
      rw [List.map_cons, Styled.splitLines.go, List.map_cons, hpart, ih _ hrest]
  have hjoin : ['\n'].intercalate (t.chars.splitOn '\n') = t.chars := List.intercalate_splitOn _
  unfold Styled.splitLines
  dsimp only
  split
  · next hnone => simp at hnone
  · next hone =>
    obtain ⟨line, hline, -⟩ := List.map_eq_singleton_iff.mp hone
    rw [hline] at hjoin ⊢
    rw [List.map_singleton, ← hjoin, List.intercalate_singleton]
  · exact hgo _ 0 (.inr hjoin.symm)

theorem intercalate_splitLines (t : Styled) :
    ['\n'].intercalate (t.splitLines.map Styled.chars) = t.chars := by
  rw [map_splitLines]
  exact List.intercalate_splitOn _

theorem composed_of_mem_splitLines (h : Composed t.chars) :
    ∀ line ∈ t.splitLines, Composed line.chars := by
  rw [← intercalate_splitLines t, composed_intercalate (by decide)] at h
  exact List.forall_mem_map.mp h

end Slices

section Tabs

@[simp] theorem chars_append (a b : Styled) : (a.append b).chars = a.chars ++ b.chars := rfl

@[simp] theorem chars_concat (parts : List Styled) :
    (Styled.concat parts).chars = parts.flatMap Styled.chars := by
  have hfold (start : Styled) :
      (parts.foldl Styled.append start).chars = start.chars ++ parts.flatMap Styled.chars := by
    induction parts generalizing start with
    | nil => simp
    | cons part rest ih => rw [List.foldl_cons, ih]; simp
  exact hfold _

theorem tabParts_cons (s : List Char) : tabParts s ≠ [] ∧ (tabParts s).flatten = s := by
  induction s with
  | nil => simp [tabParts]
  | cons c rest ih =>
    rw [tabParts]
    split
    · simp [ih.2]
    · split
      · next hnone => exact absurd hnone ih.1
      · next part parts hparts =>
        rw [hparts] at ih
        simpa using ih.2

theorem flatMap_fillTabs (used : Nat) (parts : List Styled) :
    ((fillTabs used parts).flatMap fun part => visible part.chars) =
      parts.flatMap fun part => visible part.chars := by
  induction parts generalizing used with
  | nil => rfl
  | cons part rest ih =>
    rw [fillTabs]
    split
    · next htab =>
      obtain ⟨start, hstart⟩ := List.getLast?_eq_some_iff.mp htab
      have hblank : visible [' '] = [] ∧ visible ['\t'] = [] := by decide
      have hpart (count : Nat) : visible (extend ⟨start ++ [' '], part.spans⟩ count).chars =
          visible part.chars := by
        rw [extend, hstart]
        simp only [visible_append, visible_replicate_blank, hblank, List.append_nil]
      rw [List.flatMap_cons, List.flatMap_cons, ih, hstart, List.dropLast_concat, hpart, hstart]
    · rw [List.flatMap_cons, List.flatMap_cons, ih]

/-- Blanks in place of tabs leave what is visible. -/
theorem visible_expandTabs (t : Styled) : visible (expandTabs t).chars = visible t.chars := by
  unfold expandTabs
  split
  · obtain ⟨hparts, hflat⟩ := tabParts_cons t.chars
    rw [chars_concat, visible_flatMap, flatMap_fillTabs, ← visible_flatMap, List.flatMap_def,
      map_cut hparts hflat, hflat]
  · rfl

theorem getLast?_of_mem_tabParts (s : List Char) :
    ∀ part ∈ (tabParts s).dropLast, part.getLast? = some '\t' := by
  induction s with
  | nil => simp [tabParts]
  | cons c rest ih =>
    obtain ⟨part, parts, hparts⟩ := List.exists_cons_of_ne_nil (tabParts_cons rest).1
    rw [tabParts]
    rw [hparts] at ih ⊢
    split
    · next hc =>
      rw [List.dropLast_cons_cons]
      exact List.forall_mem_cons.mpr ⟨congrArg some hc, ih⟩
    · cases parts with
      | nil => simp
      | cons next more =>
        rw [List.dropLast_cons_cons] at ih ⊢
        obtain ⟨hpart, hmore⟩ := List.forall_mem_cons.mp ih
        refine List.forall_mem_cons.mpr ⟨?_, hmore⟩
        rw [List.getLast?_cons, hpart]
        rfl

theorem composed_replicate_append {count : Nat} {s : List Char} (h : Composed s) :
    Composed (List.replicate count ' ' ++ s) := by
  have hblank : isBlank ' ' = true := by decide
  induction count with
  | zero => exact h
  | succ count ih => exact (composed_append (a := []) hblank).mpr ⟨composed_nil, ih⟩

theorem composed_fillTabs {parts : List Styled} (used : Nat)
    (htabs : ∀ part ∈ parts.dropLast, part.chars.getLast? = some '\t')
    (h : Composed (parts.flatMap Styled.chars)) :
    Composed ((fillTabs used parts).flatMap Styled.chars) := by
  induction parts generalizing used with
  | nil => exact h
  | cons part rest ih =>
    have hmore : ∀ part ∈ rest.dropLast, part.chars.getLast? = some '\t' := fun other hother =>
      htabs other (by
        cases rest with
        | nil => simp at hother
        | cons next more =>
          rw [List.dropLast_cons_cons]
          exact List.mem_cons_of_mem _ hother)
    rw [List.flatMap_cons] at h
    rw [fillTabs]
    split
    · next htab =>
      obtain ⟨start, hstart⟩ := List.getLast?_eq_some_iff.mp htab
      rw [hstart, List.append_assoc] at h
      obtain ⟨hpart, hrest⟩ := (composed_append (by decide)).mp h
      rw [List.flatMap_cons, extend, hstart, List.dropLast_concat, List.append_assoc, List.append_assoc]
      exact (composed_append (by decide)).mpr ⟨hpart, composed_replicate_append (ih _ hmore hrest)⟩
    · next htab =>
      -- Only the last part has no tab at its end.
      cases rest with
      | nil => simpa [fillTabs] using h
      | cons next more => exact absurd (htabs part (by simp)) htab

theorem composed_expandTabs {t : Styled} (h : Composed t.chars) : Composed (expandTabs t).chars := by
  unfold expandTabs
  split
  · obtain ⟨hparts, hflat⟩ := tabParts_cons t.chars
    have hcut := map_cut hparts hflat
    rw [chars_concat]
    apply composed_fillTabs
    · have htabs := getLast?_of_mem_tabParts t.chars
      rw [← hcut, ← List.map_dropLast] at htabs
      exact List.forall_mem_map.mp htabs
    · rwa [List.flatMap_def, hcut, hflat]
  · exact h

end Tabs

section Lines

variable {t : Styled} {width : Nat}

theorem chars_withChars (t : Styled) (s : List Char) : (t.withChars s).chars = s := by
  unfold Styled.withChars
  split <;> rfl

/-- Only blanks at the end of a line are dropped from it. -/
theorem dropExcessBlanks_chars (width : Nat) (t : Styled) : ∃ ending,
    (dropExcessBlanks width t).chars = dropEndWhile isBlank t.chars ++ ending ∧ visible ending = [] := by
  obtain ⟨ending, hchars, hblank⟩ := exists_dropEndWhile_append isBlank t.chars
  have hlength := congrArg List.length hchars
  rw [List.length_append] at hlength
  let count := t.chars.length - min (t.chars.length - (dropEndWhile isBlank t.chars).length)
    (t.chars.length - width)
  refine ⟨ending.take (count - (dropEndWhile isBlank t.chars).length), ?_,
    visible_eq_nil_iff.mpr fun c hc => hblank c (List.mem_of_mem_take hc)⟩
  have hkept : (dropEndWhile isBlank t.chars).length ≤ count := by omega
  calc (dropExcessBlanks width t).chars = t.chars.take count := chars_withChars ..
    _ = (dropEndWhile isBlank t.chars ++ ending).take count := by rw [← hchars]
    _ = dropEndWhile isBlank t.chars ++ ending.take (count - (dropEndWhile isBlank t.chars).length) := by
      rw [List.take_append, List.take_of_length_le hkept]

theorem visible_dropExcessBlanks (width : Nat) (t : Styled) :
    visible (dropExcessBlanks width t).chars = visible t.chars := by
  obtain ⟨ending, hchars, hblank⟩ := dropExcessBlanks_chars width t
  rw [hchars, visible_append, hblank, List.append_nil, visible_dropEndWhile]

theorem wordWidth_dropExcessBlanks (width : Nat) (t : Styled) :
    wordWidth (dropExcessBlanks width t).chars = wordWidth t.chars := by
  obtain ⟨ending, hchars, hblank⟩ := dropExcessBlanks_chars width t
  rw [hchars, wordWidth_append_blank hblank, wordWidth_dropEndWhile]

theorem anchored_dropExcessBlanks (width : Nat) (h : Anchored t.chars) :
    Anchored (dropExcessBlanks width t).chars := by
  obtain ⟨count, hcount⟩ : ∃ count, (dropExcessBlanks width t).chars = t.chars.take count :=
    ⟨_, chars_withChars ..⟩
  rw [← List.take_append_drop count t.chars] at h
  exact hcount ▸ h.of_append

/-- A line that only blanks stick out of is cropped to fit and keeps what is visible. -/
theorem crop_line (hwidth : 0 < width) (ht : Anchored t.chars) (hfits : wordWidth t.chars ≤ width) :
    visible (crop width t).chars = visible t.chars ∧ cellWidth (crop width t).chars ≤ width := by
  unfold crop
  split
  · next hwide =>
    rw [chars_withChars]
    exact ⟨visible_fitWidth hwidth ht hfits, cellWidth_fitWidth_le ht hwide⟩
  · next hnarrow => exact ⟨rfl, Nat.le_of_not_lt hnarrow⟩

/-- A line that is divided shows all that is visible, in lines that fit. -/
theorem divided_line (hwidth : 3 ≤ width) (ht : Composed t.chars) :
    let parts := t.cut ((divide .fold width t.chars).map List.length)
    ((parts.map fun part => crop width (dropExcessBlanks width part)).flatMap fun line =>
        visible line.chars) = visible t.chars ∧
      ∀ line ∈ parts.map fun part => crop width (dropExcessBlanks width part),
        cellWidth line.chars ≤ width := by
  intro parts
  obtain ⟨hne, hflat, hfits⟩ := divide_parts hwidth ht
  have hparts : parts.map Styled.chars = divide .fold width t.chars := map_cut hne hflat
  have hline : ∀ part ∈ parts, let line := crop width (dropExcessBlanks width part)
      visible line.chars = visible part.chars ∧ cellWidth line.chars ≤ width := by
    intro part hpart
    obtain ⟨hpartFits, hanchored⟩ := hfits part.chars (hparts ▸ List.mem_map_of_mem hpart)
    have hword := (wordWidth_dropExcessBlanks width part).trans_le hpartFits
    obtain ⟨hkept, hcells⟩ := crop_line (by omega) (anchored_dropExcessBlanks width hanchored) hword
    exact ⟨hkept.trans (visible_dropExcessBlanks width part), hcells⟩
  constructor
  · calc (parts.map fun part => crop width (dropExcessBlanks width part)).flatMap
          (fun line => visible line.chars)
      _ = parts.flatMap fun part => visible part.chars := by
        rw [List.flatMap_map]
        exact congrArg List.flatten (List.map_congr_left fun part hpart => (hline part hpart).1)
      _ = (parts.map Styled.chars).flatMap visible := by rw [List.flatMap_map]
      _ = visible t.chars := by rw [hparts, ← visible_flatten, hflat]
  · exact List.forall_mem_map.mpr fun part hpart => (hline part hpart).2

/-- A wrapped text shows all that is visible, in lines that fit. -/
theorem wrap_lines (hwidth : 3 ≤ width) (ht : Composed t.chars) :
    ((wrap width t).flatMap fun line => visible line.chars) = visible t.chars ∧
      ∀ line ∈ wrap width t, cellWidth line.chars ≤ width := by
  have hsplit : (t.splitLines.flatMap fun line => visible line.chars) = visible t.chars := by
    calc t.splitLines.flatMap (fun line => visible line.chars)
      _ = (t.splitLines.map Styled.chars).flatMap visible := by rw [List.flatMap_map]
      _ = visible (['\n'].intercalate (t.splitLines.map Styled.chars)) :=
        (visible_intercalate (by decide) _).symm
      _ = visible t.chars := by rw [intercalate_splitLines]
  have hline : ∀ line ∈ t.splitLines, Composed (expandTabs line).chars := fun line hmem =>
    composed_expandTabs (composed_of_mem_splitLines ht line hmem)
  unfold wrap layOut
  constructor
  · rw [List.flatMap_assoc, ← hsplit]
    exact congrArg List.flatten (List.map_congr_left fun line hmem =>
      (divided_line hwidth (hline line hmem)).1.trans (visible_expandTabs line))
  · intro line hmem
    obtain ⟨source, hsource, hmem⟩ := List.mem_flatMap.mp hmem
    exact (divided_line hwidth (hline source hsource)).2 line hmem

end Lines

end BuildLauncher.Text

import BuildLauncher.Proofs.Text.Styles
import BuildLauncher.Proofs.Text.Wrapping
import Mathlib.Data.List.Basic

/-!
# Borders of styles

Runs between borders of styles are measured by themselves. They take no more than their line does
(`runsWidth_runs_le`) if no border stands right after a joiner, and wrapping moves none there
(`Bordered.wrap`).
-/
namespace BuildLauncher.Text

variable {t a b : Styled}

/-- No border stands right after a joiner, but perhaps at the end of the text. -/
def Apart (t : Styled) : Prop :=
  ∀ k ∈ t.borders, k < t.chars.length → (t.chars.take k).getLast? ≠ some zeroWidthJoiner

/-- The borders are places in the text, and none stands right after a joiner. -/
structure Bordered (t : Styled) : Prop where
  inside : ∀ k ∈ t.borders, k ≤ t.chars.length
  apart : Apart t

section Runs

theorem closed_of_mem_runsFrom {borders : List Nat} (before run s : List Char)
    (h : ∀ k ∈ borders, k < (before ++ run.reverse ++ s).length →
      ((before ++ run.reverse ++ s).take k).getLast? ≠ some zeroWidthJoiner) :
    ∀ r ∈ (Styled.runsFrom borders (before ++ run.reverse).length run s).dropLast, Closed r := by
  induction s generalizing before run with
  | nil =>
    rw [Styled.runsFrom]
    split <;> simp
  | cons c rest ih =>
    rw [Styled.runsFrom]
    split
    · next hborder =>
      obtain ⟨hmem, hrun⟩ : (before ++ run.reverse).length ∈ borders ∧ run ≠ [] := by
        simpa using hborder
      -- The run that ends here does not end in a joiner, and a new one starts.
      have hclosed : Closed run.reverse := closed_of_getLast? fun hlast => by
        refine h _ hmem (by simp) ?_
        rw [List.take_left, List.getLast?_append, hlast]
        rfl
      have hrest := ih (before ++ run.reverse) [c] (by simpa using h)
      have hplace : (before ++ run.reverse ++ [c].reverse).length =
          (before ++ run.reverse).length + 1 := by simp [Nat.add_assoc]
      rw [hplace] at hrest
      generalize Styled.runsFrom borders ((before ++ run.reverse).length + 1) [c] rest = more at hrest ⊢
      cases more with
      | nil => simp
      | cons next more =>
        rw [List.dropLast_cons_cons]
        exact List.forall_mem_cons.mpr ⟨hclosed, hrest⟩
    · have hrest := ih before (c :: run) (by simpa using h)
      have hplace : (before ++ (c :: run).reverse).length = (before ++ run.reverse).length + 1 := by
        simp [Nat.add_assoc]
      rwa [hplace] at hrest

/-- The runs of a text take no more than the text does. -/
theorem runsWidth_runs_le (h : Apart t) : runsWidth t.runs ≤ cellWidth t.chars := by
  have hclosed : ∀ run ∈ t.runs.dropLast, Closed run := closed_of_mem_runsFrom [] [] t.chars h
  exact t.flatten_runs ▸ runsWidth_le hclosed

end Runs

section Wrapping

theorem bordered_bare (s : List Char) : Bordered (.bare s) := by
  constructor <;> simp [Apart, Styled.bare, Styled.borders]

theorem bordered_whole (s : List Char) : Bordered (.whole s) := by
  constructor <;> simp [Apart, Styled.whole, Styled.borders]

/-- A border of a slice stands at one of its ends, or is one of the text. -/
theorem borders_slice {start size k : Nat} (h : ∀ k ∈ t.borders, k ≤ t.chars.length)
    (hk : k ∈ (t.slice start size).borders) :
    k = 0 ∨ k = (t.slice start size).chars.length ∨ start + k ∈ t.borders ∧ k ≤ size := by
  simp only [Styled.borders, Styled.slice, List.mem_flatMap, List.mem_filterMap] at hk
  obtain ⟨kept, ⟨span, hspan, hkept⟩, hk⟩ := hk
  have hstart : span.start ∈ t.borders := List.mem_flatMap.mpr ⟨span, hspan, by simp⟩
  have hstop : span.stop ∈ t.borders := List.mem_flatMap.mpr ⟨span, hspan, by simp⟩
  have hlength := h _ hstop
  unfold Span.within? at hkept
  dsimp only at hkept
  split at hkept
  · next hsome =>
    obtain rfl := Option.some.inj hkept
    simp only [List.mem_cons, List.not_mem_nil, or_false] at hk
    obtain rfl | rfl := hk
    · by_cases hfirst : span.start ≤ start
      · exact .inl (by omega)
      · refine .inr (.inr ⟨?_, by omega⟩)
        rwa [show start + (max span.start start - start) = span.start by omega]
    · by_cases hlast : span.stop ≤ start + size
      · refine .inr (.inr ⟨?_, by omega⟩)
        rwa [show start + (min span.stop (start + size) - start) = span.stop by omega]
      · refine .inr (.inl ?_)
        simp only [Styled.slice, List.length_take, List.length_drop]
        omega
  · contradiction

theorem Bordered.slice (h : Bordered t) (start size : Nat) : Bordered (t.slice start size) := by
  have hlength : (t.slice start size).chars.length = min size (t.chars.length - start) := by
    simp [Styled.slice]
  constructor
  · intro k hk
    obtain rfl | rfl | ⟨hborder, hsize⟩ := borders_slice h.inside hk
    · exact Nat.zero_le _
    · exact Nat.le_refl _
    · have := h.inside _ hborder
      omega
  · intro k hk hless
    obtain rfl | rfl | ⟨hborder, hsize⟩ := borders_slice h.inside hk
    · simp
    · exact absurd hless (Nat.lt_irrefl _)
    · rw [hlength] at hless
      have hapart := h.apart _ hborder (by omega)
      have htake : (t.slice start size).chars.take k = (t.chars.drop start).take k := by
        rw [Styled.slice, List.take_take, Nat.min_eq_left hsize]
      rw [htake]
      by_cases hzero : k = 0
      · simp [hzero]
      · have hsome : (t.chars.drop start).take k ≠ [] := by
          simp [List.take_eq_nil_iff, hzero]
          omega
        rwa [List.take_add, List.getLast?_append_of_ne_nil _ hsome] at hapart

theorem Bordered.append (ha : Bordered a) (hb : Bordered b)
    (hends : a.chars.getLast? ≠ some zeroWidthJoiner) : Bordered (a.append b) := by
  have hborders : (a.append b).borders = a.borders ++ b.borders.map (a.chars.length + ·) := by
    simp [Styled.borders, Styled.append, List.flatMap_map, List.map_flatMap]
  have hchars : (a.append b).chars = a.chars ++ b.chars := rfl
  constructor
  · simp only [hborders, List.forall_mem_append, List.forall_mem_map, hchars, List.length_append]
    exact ⟨fun k hk => Nat.le_add_right_of_le (ha.inside k hk),
      fun k hk => Nat.add_le_add_left (hb.inside k hk) _⟩
  · simp only [Apart, hborders, List.forall_mem_append, List.forall_mem_map, hchars, List.length_append]
    constructor
    · intro k hk _
      rw [List.take_append_of_le_length (ha.inside k hk)]
      obtain hless | rfl := Nat.lt_or_eq_of_le (ha.inside k hk)
      · exact ha.apart k hk hless
      · rwa [List.take_length]
    · intro k hk hless
      rw [List.take_length_add_append]
      by_cases hnil : b.chars.take k = []
      · rwa [hnil, List.append_nil]
      · rw [List.getLast?_append_of_ne_nil _ hnil]
        exact hb.apart k hk (by omega)

theorem bordered_concat {parts : List Styled} (h : ∀ part ∈ parts, Bordered part)
    (hends : ∀ part ∈ parts.dropLast, part.chars.getLast? ≠ some zeroWidthJoiner) :
    Bordered (.concat parts) := by
  have hfold (start : Styled) (hstart : Bordered start)
      (hend : start.chars.getLast? ≠ some zeroWidthJoiner) : Bordered (parts.foldl Styled.append start) := by
    induction parts generalizing start with
    | nil => exact hstart
    | cons part rest ih =>
      obtain ⟨hpart, hrest⟩ := List.forall_mem_cons.mp h
      have hboth : Bordered (start.append part) := hstart.append hpart hend
      cases rest with
      | nil => exact hboth
      | cons next more =>
        rw [List.dropLast_cons_cons, List.forall_mem_cons] at hends
        refine ih hrest hends.2 _ hboth ?_
        rw [chars_append, List.getLast?_append]
        cases hlast : part.chars.getLast? with
        | none => exact hend
        | some c => exact fun heq => hends.1 (hlast.trans heq)
  exact hfold _ (bordered_bare []) (by simp [Styled.bare])

/-- A tab gives way to blanks. A style that reaches its end goes on, so that no new border is there. -/
theorem Bordered.extend_tab {start : List Char} (h : Bordered t) (hchars : t.chars = start ++ ['\t'])
    (count : Nat) : Bordered (extend { t with chars := start ++ [' '] } count) := by
  have hlength : t.chars.length = start.length + 1 := by simp [hchars]
  have hborders : ∀ k ∈ (extend { t with chars := start ++ [' '] } count).borders,
      k ∈ t.borders ∨ k = start.length + 1 + count := by
    simp only [extend, Styled.borders, List.mem_flatMap, List.mem_map, List.length_append,
      List.length_singleton]
    rintro k ⟨_, ⟨span, hspan, rfl⟩, hk⟩
    have hstop : span.stop ∈ t.borders := List.mem_flatMap.mpr ⟨span, hspan, by simp⟩
    have hinside := h.inside _ hstop
    split at hk
    · simp only [List.mem_cons, List.not_mem_nil, or_false] at hk
      obtain rfl | rfl := hk
      · exact .inl ⟨span, hspan, by simp⟩
      · exact .inr (by omega)
    · exact .inl ⟨span, hspan, hk⟩
  have hlonger : (extend { t with chars := start ++ [' '] } count).chars =
      start ++ [' '] ++ List.replicate count ' ' := rfl
  have hsize : (start ++ [' '] ++ List.replicate count ' ').length = start.length + 1 + count := by
    simp only [List.length_append, List.length_singleton, List.length_replicate]
  constructor
  · intro k hk
    rw [hlonger, hsize]
    obtain hborder | rfl := hborders k hk
    · have := h.inside k hborder
      omega
    · exact Nat.le_refl _
  · intro k hk hless
    rw [hlonger, hsize] at hless
    obtain hborder | rfl := hborders k hk
    · have hinside := h.inside k hborder
      rw [hlonger, List.take_append_of_le_length (by simp; omega)]
      obtain hbefore | rfl : k ≤ start.length ∨ k = start.length + 1 := by omega
      · have hapart := h.apart k hborder (by omega)
        rw [hchars, List.take_append_of_le_length hbefore] at hapart
        rwa [List.take_append_of_le_length hbefore]
      · rw [List.take_of_length_le (by simp), List.getLast?_concat]
        decide
    · exact absurd hless (Nat.lt_irrefl _)

theorem bordered_fillTabs {parts : List Styled} (h : ∀ part ∈ parts, Bordered part) (used : Nat) :
    ∀ part ∈ fillTabs used parts, Bordered part := by
  induction parts generalizing used with
  | nil => simp [fillTabs]
  | cons part rest ih =>
    obtain ⟨hpart, hrest⟩ := List.forall_mem_cons.mp h
    rw [fillTabs]
    split
    · next htab =>
      obtain ⟨start, hstart⟩ := List.getLast?_eq_some_iff.mp htab
      refine List.forall_mem_cons.mpr ⟨?_, ih hrest _⟩
      have hblank := hpart.extend_tab hstart
      simp only [hstart, List.dropLast_concat]
      exact hblank _
    · exact List.forall_mem_cons.mpr ⟨hpart, ih hrest _⟩

/-- Where tabs were, parts end in blanks. -/
theorem getLast?_of_mem_fillTabs {parts : List Styled}
    (htabs : ∀ part ∈ parts.dropLast, part.chars.getLast? = some '\t') (used : Nat) :
    ∀ part ∈ (fillTabs used parts).dropLast, part.chars.getLast? = some ' ' := by
  induction parts generalizing used with
  | nil => simp [fillTabs]
  | cons part rest ih =>
    cases rest with
    | nil =>
      rw [fillTabs]
      split <;> simp [fillTabs]
    | cons next more =>
      rw [List.dropLast_cons_cons, List.forall_mem_cons] at htabs
      have hrest (used : Nat) := ih htabs.2 used
      have hsome (used : Nat) : ∃ first others, fillTabs used (next :: more) = first :: others := by
        rw [fillTabs]
        split <;> exact ⟨_, _, rfl⟩
      rw [fillTabs, if_pos htabs.1]
      dsimp only
      generalize used + cellWidth (part.chars.dropLast ++ [' ']) = used'
      obtain ⟨first, others, hmore⟩ := hsome (used' + (tabStop - used' % tabStop) % tabStop)
      specialize hrest (used' + (tabStop - used' % tabStop) % tabStop)
      rw [hmore] at hrest ⊢
      rw [List.dropLast_cons_cons]
      refine List.forall_mem_cons.mpr ⟨?_, hrest⟩
      generalize (tabStop - used' % tabStop) % tabStop = count
      rw [extend, List.getLast?_append]
      cases count <;> simp [List.getLast?_replicate]

theorem Bordered.expandTabs (h : Bordered t) : Bordered (expandTabs t) := by
  unfold Text.expandTabs
  split
  · obtain ⟨hparts, hflat⟩ := tabParts_cons t.chars
    have hcut := map_cut hparts hflat
    have htabs := getLast?_of_mem_tabParts t.chars
    rw [← hcut, ← List.map_dropLast, List.forall_mem_map] at htabs
    refine bordered_concat (bordered_fillTabs (forall_mem_cut h.slice h _) 0) fun part hpart => ?_
    rw [getLast?_of_mem_fillTabs htabs 0 part hpart]
    decide
  · exact h

/-- Other characters move no border, where they are the same up to the last one. -/
theorem Apart.withChars {s : List Char} (h : Apart t)
    (hsame : ∀ k < s.length, k < t.chars.length ∧ s.take k = t.chars.take k) :
    Apart (t.withChars s) := by
  have hborders : ∀ k ∈ (t.withChars s).borders, k ∈ t.borders ∨ k = s.length := by
    intro k hk
    unfold Styled.withChars at hk
    split at hk
    · simp only [Styled.borders, List.mem_flatMap, List.mem_filterMap] at hk
      obtain ⟨kept, ⟨span, hspan, hkept⟩, hk⟩ := hk
      unfold Span.upTo? at hkept
      split at hkept
      · obtain rfl := Option.some.inj hkept
        simp only [List.mem_cons, List.not_mem_nil, or_false] at hk
        obtain rfl | rfl := hk
        · exact .inl (List.mem_flatMap.mpr ⟨span, hspan, by simp⟩)
        · obtain hmin | hmin := Nat.le_total span.stop s.length
          · exact .inl (List.mem_flatMap.mpr ⟨span, hspan, by simp [Nat.min_eq_left hmin]⟩)
          · exact .inr (Nat.min_eq_right hmin)
      · contradiction
    · exact .inl hk
  intro k hk hless
  rw [chars_withChars] at hless ⊢
  obtain ⟨hlength, htake⟩ := hsame k hless
  obtain hborder | rfl := hborders k hk
  · exact htake ▸ h k hborder hlength
  · exact absurd hless (Nat.lt_irrefl _)

theorem Apart.dropExcessBlanks (h : Apart t) (width : Nat) : Apart (dropExcessBlanks width t) :=
  h.withChars fun k hk => by
    rw [List.length_take] at hk
    exact ⟨by omega, by rw [List.take_take, Nat.min_eq_left (by omega)]⟩

theorem Apart.crop (h : Apart t) (hanchored : Anchored t.chars) (width : Nat) :
    Apart (crop width t) := by
  unfold Text.crop
  split
  · next hwide =>
    obtain ⟨kept, rest, hchars, -, hcrop | ⟨-, hrest, hcrop⟩⟩ := fitWidth_cases hanchored hwide
    · refine h.withChars fun k hk => ?_
      rw [hcrop] at hk ⊢
      rw [hchars, List.length_append, List.take_append_of_le_length hk.le]
      exact ⟨by omega, rfl⟩
    · refine h.withChars fun k hk => ?_
      have hpositive := List.length_pos_iff.mpr hrest
      rw [hcrop] at hk ⊢
      rw [List.length_append, List.length_singleton] at hk
      rw [hchars, List.length_append, List.take_append_of_le_length (by omega),
        List.take_append_of_le_length (by omega)]
      exact ⟨by omega, rfl⟩
  · exact h

/-- The lines of a wrapped text have no border right after a joiner. -/
theorem Bordered.wrap {width : Nat} (hwidth : 3 ≤ width) (h : Bordered t) (ht : Composed t.chars) :
    ∀ line ∈ wrap width t, Apart line := by
  intro line hline
  obtain ⟨source, hsource, hline⟩ := List.mem_flatMap.mp hline
  obtain ⟨part, hpart, rfl⟩ := List.mem_map.mp hline
  have hexpanded : Bordered (Text.expandTabs source) :=
    (forall_mem_splitLines h.slice h source hsource).expandTabs
  have hcomposed : Composed (Text.expandTabs source).chars :=
    composed_expandTabs (composed_of_mem_splitLines ht source hsource)
  obtain ⟨hne, hflat, hfits⟩ := divide_parts hwidth hcomposed
  have hparts := map_cut hne hflat
  have hanchored := (hfits part.chars (hparts ▸ List.mem_map_of_mem hpart)).2
  have hapart := (forall_mem_cut hexpanded.slice hexpanded _ part hpart).apart
  exact (hapart.dropExcessBlanks width).crop (anchored_dropExcessBlanks width hanchored) width

end Wrapping

end BuildLauncher.Text

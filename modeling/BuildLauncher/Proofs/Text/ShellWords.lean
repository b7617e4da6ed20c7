import BuildLauncher.Text.ShellWords
import Mathlib.Data.List.Basic

/-!
# Shell words are read back

A reader of shell words takes the quoted form of a word, whatever follows it, as exactly that word.
Hence the words of a joined line are the words that it was joined from. In a text where a blank and
a bracket follow the line, its words are known from the text (`shellJoin_append_inj`).
-/
namespace BuildLauncher.Text

/-- A character outside quotes, between words or inside one. -/
theorem splitFrom_outside {state : ShellState} (hs : state = .between ∨ state = .bare) (c : Char)
    (word rest : List Char) :
    splitFrom state word (c :: rest) =
      if isShellBlank c then
        if state = .between then splitFrom .between [] rest
        else (splitFrom .between [] rest).map (word.reverse :: ·)
      else if c = '\'' then splitFrom .single word rest
      else if c = '"' then splitFrom .double word rest
      else if c = '\\' then
        match rest with
        | [] => none
        | d :: rest => splitFrom .bare (d :: word) rest
      else splitFrom .bare (c :: word) rest := by
  rcases hs with rfl | rfl
  · exact splitFrom.eq_def ..
  · exact splitFrom.eq_def ..

theorem isShellSafe_plain {c : Char} (h : isShellSafe c = true) :
    isShellBlank c = false ∧ c ≠ '\'' ∧ c ≠ '"' ∧ c ≠ '\\' := by
  refine ⟨?_, ?_, ?_, ?_⟩
  · simp only [isShellBlank, Bool.or_eq_false_iff, decide_eq_false_iff_not]
    refine ⟨⟨⟨?_, ?_⟩, ?_⟩, ?_⟩ <;> rintro rfl <;> revert h <;> decide
  all_goals
    rintro rfl
    revert h
    decide

/-- A safe character belongs to the word, and it begins one where none has begun. -/
theorem splitFrom_safe {c : Char} (h : isShellSafe c = true) {state : ShellState}
    (hs : state = .between ∨ state = .bare) (word rest : List Char) :
    splitFrom state word (c :: rest) = splitFrom .bare (c :: word) rest := by
  obtain ⟨hb, hq, hd, hl⟩ := isShellSafe_plain h
  simp [splitFrom_outside hs, hb, hq, hd, hl]

theorem splitFrom_safeWord (w : List Char) (h : ∀ c ∈ w, isShellSafe c = true)
    (word rest : List Char) :
    splitFrom .bare word (w ++ rest) = splitFrom .bare (w.reverse ++ word) rest := by
  induction w generalizing word with
  | nil => rfl
  | cons c w ih =>
    rw [List.cons_append, splitFrom_safe (h c (by simp)) (.inr rfl),
      ih (fun d hd => h d (by simp [hd]))]
    simp

/-- Inside single quotes the escaped characters are read as themselves up to the closing quote. -/
theorem splitFrom_escaped (w word rest : List Char) :
    splitFrom .single word (w.flatMap shellEscape ++ '\'' :: rest) =
      splitFrom .bare (w.reverse ++ word) rest := by
  induction w generalizing word with
  | nil => simp [splitFrom]
  | cons c w ih =>
    by_cases hc : c = '\''
    · subst hc
      simp [shellEscape, splitFrom, splitFrom_outside, isShellBlank, ih]
    · simp [shellEscape, splitFrom, hc, ih]

theorem splitFrom_shellQuote (w rest : List Char) :
    splitFrom .between [] (shellQuote w ++ rest) = splitFrom .bare w.reverse rest := by
  unfold shellQuote
  split
  · rename_i hempty
    obtain rfl := List.isEmpty_iff.mp hempty
    simp [splitFrom, splitFrom_outside, isShellBlank]
  split
  · rename_i hne hsafe
    have hall := List.all_eq_true.mp hsafe
    cases w with
    | nil => simp at hne
    | cons c w =>
      rw [List.cons_append, splitFrom_safe (hall c (by simp)) (.inl rfl),
        splitFrom_safeWord w (fun d hd => hall d (by simp [hd]))]
      simp
  · simpa [splitFrom_outside, isShellBlank] using splitFrom_escaped w [] rest

theorem splitFrom_intercalate (words : List (List Char)) :
    splitFrom .between [] (List.intercalate [' '] (words.map shellQuote)) = some words := by
  induction words with
  | nil => rfl
  | cons w rest ih =>
    cases rest with
    | nil =>
      have hw := splitFrom_shellQuote w []
      simpa [splitFrom] using hw
    | cons w' rest =>
      have hw := splitFrom_shellQuote w
        (' ' :: List.intercalate [' '] ((w' :: rest).map shellQuote))
      rw [List.map_cons] at ih
      simpa [splitFrom_outside, isShellBlank, ih] using hw

theorem toList_shellJoin (words : List String) : (shellJoin words).toList =
    List.intercalate [' '] (words.map fun w => shellQuote w.toList) :=
  String.toList_ofList

theorem shellSplit_shellJoin (words : List String) : shellSplit (shellJoin words) = some words := by
  have h := splitFrom_intercalate (words.map String.toList)
  simp only [List.map_map, Function.comp_def] at h
  simp [shellSplit, shellJoin, h, Function.comp_def]

section Ends

variable {w w' rest rest' : List Char}

theorem eq_of_prefix_shellQuote (h : shellQuote w ++ [' '] <+: shellQuote w' ++ [' ']) :
    w = w' := by
  obtain ⟨more, hmore⟩ := h
  have hread := congrArg (splitFrom .between []) hmore
  rw [List.append_assoc, splitFrom_shellQuote, splitFrom_shellQuote] at hread
  have hwords : (splitFrom .between [] more).map (w :: ·) = some [w'] := by
    simpa [splitFrom_outside, isShellBlank, splitFrom] using hread
  obtain ⟨words, -, hcons⟩ := Option.map_eq_some_iff.mp hwords
  exact (List.cons.inj hcons).1

/-- A word in quotes ends at the blank after it, whatever comes then. -/
theorem shellQuote_append_inj
    (h : shellQuote w ++ ' ' :: rest = shellQuote w' ++ ' ' :: rest') : w = w' ∧ rest = rest' := by
  have hleft : shellQuote w ++ [' '] <+: shellQuote w ++ ' ' :: rest := ⟨rest, by simp⟩
  have hright : shellQuote w' ++ [' '] <+: shellQuote w ++ ' ' :: rest := ⟨rest', by simp [h]⟩
  have hword : w = w' :=
    (List.prefix_or_prefix_of_prefix hleft hright).elim eq_of_prefix_shellQuote
      fun hle => (eq_of_prefix_shellQuote hle).symm
  subst hword
  exact ⟨rfl, (List.cons.inj (List.append_cancel_left h)).2⟩

/-- No word in quotes starts with a bracket. -/
theorem shellQuote_append_ne : shellQuote w ++ rest ≠ '(' :: rest' := by
  have hsafe : isShellSafe '(' = false := by decide
  unfold shellQuote
  split
  · simp
  split
  · rename_i hne hall
    obtain ⟨c, more, rfl⟩ := List.exists_cons_of_ne_nil (by simpa using hne)
    intro heq
    obtain rfl := (List.cons.inj heq).1
    simp [hsafe] at hall
  · simp

/-- Words of which each has a blank after it are known up to a bracket. -/
theorem flatMap_shellQuote_inj {words words' : List (List Char)}
    (h : words.flatMap (shellQuote · ++ [' ']) ++ '(' :: rest =
      words'.flatMap (shellQuote · ++ [' ']) ++ '(' :: rest') : words = words' ∧ rest = rest' := by
  induction words generalizing words' with
  | nil =>
    cases words' with
    | nil => simpa using h
    | cons w' more' => exact absurd (by simpa using h.symm) shellQuote_append_ne
  | cons w more ih =>
    cases words' with
    | nil => exact absurd (by simpa using h) shellQuote_append_ne
    | cons w' more' =>
      obtain ⟨rfl, hmore⟩ := shellQuote_append_inj (by simpa using h)
      obtain ⟨rfl, rfl⟩ := ih (by simpa using hmore)
      exact ⟨rfl, rfl⟩

theorem intercalate_append_blank {words : List (List Char)} (hne : words ≠ []) :
    List.intercalate [' '] (words.map shellQuote) ++ [' '] =
      words.flatMap (shellQuote · ++ [' ']) := by
  induction words with
  | nil => contradiction
  | cons w more ih =>
    cases more with
    | nil => simp
    | cons w' more =>
      simpa using congrArg (shellQuote w ++ ' ' :: ·) (ih (List.cons_ne_nil _ _))

/-- A command in a line is known from the line up to a bracket after it. -/
theorem shellJoin_append_inj {words words' : List String} {rest rest' : List Char}
    (hne : words ≠ []) (hne' : words' ≠ [])
    (h : (shellJoin words).toList ++ ' ' :: '(' :: rest =
      (shellJoin words').toList ++ ' ' :: '(' :: rest') : words = words' := by
  have hline {words : List String} (hne : words ≠ []) (rest : List Char) :
      (shellJoin words).toList ++ ' ' :: rest =
        (words.map String.toList).flatMap (shellQuote · ++ [' ']) ++ rest := by
    rw [← intercalate_append_blank (by simpa using hne)]
    simp [toList_shellJoin, Function.comp_def]
  rw [hline hne, hline hne'] at h
  exact List.map_injective_iff.mpr (fun _ _ => String.toList_inj.mp) (flatMap_shellQuote_inj h).1

theorem shellJoin_injective : Function.Injective shellJoin := by
  intro words words' h
  have hread := congrArg shellSplit h
  rwa [shellSplit_shellJoin, shellSplit_shellJoin, Option.some.injEq] at hread

end Ends

end BuildLauncher.Text

import BuildLauncher.Proofs.Number.Numerals
import BuildLauncher.Value.Json
import BuildLauncher.Value.JsonReader

/-!
# JSON as text

A JSON text holds no controls but the newlines between its lines (`shown_line`, `body_indented`), and
a string in it is read back as what was written (`readString_escape`, `readString_escapeAscii`).
-/
namespace BuildLauncher.Json

/-- Characters that may stand on a line: all but controls. -/
def IsShown (c : Char) : Prop := 0x20 ≤ c.toNat

instance (c : Char) : Decidable (IsShown c) := inferInstanceAs (Decidable (_ ≤ _))

/-- A text without controls. -/
def Shown (s : String) : Prop := ∀ c ∈ s.toList, IsShown c

instance (s : String) : Decidable (Shown s) := List.decidableBAll ..

/-- A text whose only controls are newlines. -/
def Body (s : String) : Prop := ∀ c ∈ s.toList, c = '\n' ∨ IsShown c

instance (s : String) : Decidable (Body s) := List.decidableBAll ..

section Texts

variable {s t : String} {ss : List String}

theorem mem_intercalate {c : Char} (h : c ∈ (s.intercalate ss).toList) :
    c ∈ s.toList ∨ ∃ t ∈ ss, c ∈ t.toList := by
  induction ss with
  | nil => simp at h
  | cons first rest ih =>
    by_cases hrest : rest = []
    · simp_all
    · rw [String.intercalate_cons_of_ne_nil hrest, String.toList_append, String.toList_append] at h
      grind

theorem Shown.append (hs : Shown s) (ht : Shown t) : Shown (s ++ t) := by
  intro c hc
  rw [String.toList_append] at hc
  exact (List.mem_append.mp hc).elim (hs c) (ht c)

theorem Shown.intercalate (hs : Shown s) (hss : ∀ t ∈ ss, Shown t) : Shown (s.intercalate ss) := by
  intro c hc
  obtain hc | ⟨t, ht, hc⟩ := mem_intercalate hc
  · exact hs c hc
  · exact hss t ht c hc

theorem Shown.body (h : Shown s) : Body s := fun c hc => .inr (h c hc)

theorem Body.append (hs : Body s) (ht : Body t) : Body (s ++ t) := by
  intro c hc
  rw [String.toList_append] at hc
  exact (List.mem_append.mp hc).elim (hs c) (ht c)

theorem Body.intercalate (hs : Body s) (hss : ∀ t ∈ ss, Body t) : Body (s.intercalate ss) := by
  intro c hc
  obtain hc | ⟨t, ht, hc⟩ := mem_intercalate hc
  · exact hs c hc
  · exact hss t ht c hc

end Texts

section Strings

/-- A unit has four digits, which are read back. -/
theorem exists_unit_eq {n : Nat} (h : n < 0x10000) : ∃ a b c d, unit n = ['\\', 'u', a, b, c, d] ∧
    [a, b, c, d].all (isDigitOf 16) = true ∧ ofDigits 16 [a, b, c, d] = n := by
  have hlength : (Text.hex 4 n).length = 4 := by
    have hmost : (Nat.toDigits 16 n).length ≤ 4 :=
      (Nat.length_toDigits_le_iff (by decide) (by decide)).mpr h
    simp only [Text.hex, List.length_append, List.length_replicate]
    omega
  have hdigits : (Text.hex 4 n).all (isDigitOf 16) = true := by
    simp only [Text.hex, List.all_append, Bool.and_eq_true, List.all_eq_true]
    refine ⟨fun c hc => ?_, isDigitOf_of_mem_toDigits (by decide) (by decide) n⟩
    rw [(List.mem_replicate.mp hc).2]
    decide
  have hvalue : ofDigits 16 (Text.hex 4 n) = n := by
    rw [Text.hex, ofDigits_zeros_append, ofDigits_toDigits (by decide) (by decide)]
  match hhex : Text.hex 4 n, hlength with
  | [a, b, c, d], _ =>
    rw [hhex] at hdigits hvalue
    exact ⟨a, b, c, d, by rw [unit, hhex], hdigits, hvalue⟩

/-- A unit that is no half of a pair is read back. -/
theorem readString_unit {n : Nat} (h : n < 0x10000) (hhigh : isHighHalf n = false)
    (hlow : isLowHalf n = false) (read rest : List Char) :
    readString none read (unit n ++ rest) = readString none (Char.ofNat n :: read) rest := by
  obtain ⟨x, y, z, w, hunit, hdigits, hvalue⟩ := exists_unit_eq h
  simp only [hunit, List.cons_append, List.nil_append]
  rw [readString.eq_def]
  simp [hdigits, hvalue, hhigh, hlow]

/-- The first half of a pair waits for the second. -/
theorem readString_high {high : Nat} (h : isHighHalf high = true) (read rest : List Char) :
    readString none read (unit high ++ rest) = readString (some high) read rest := by
  have hbound : high < 0x10000 := by
    simp only [isHighHalf, Bool.and_eq_true, decide_eq_true_eq] at h
    omega
  obtain ⟨x, y, z, w, hunit, hdigits, hvalue⟩ := exists_unit_eq hbound
  simp only [hunit, List.cons_append, List.nil_append]
  rw [readString.eq_def]
  simp [hdigits, hvalue, h]

/-- The second half of a pair ends it. -/
theorem readString_low {low : Nat} (h : isLowHalf low = true) (high : Nat) (read rest : List Char) :
    readString (some high) read (unit low ++ rest) =
      readString none (Char.ofNat (0x10000 + (high - 0xD800) * 0x400 + (low - 0xDC00)) :: read) rest := by
  have hbound : low < 0x10000 := by
    simp only [isLowHalf, Bool.and_eq_true, decide_eq_true_eq] at h
    omega
  obtain ⟨x, y, z, w, hunit, hdigits, hvalue⟩ := exists_unit_eq hbound
  simp only [hunit, List.cons_append, List.nil_append]
  rw [readString.eq_def]
  simp [hdigits, hvalue, h]

/-- A short escape is read back. -/
theorem unescape?_of_shortEscape? {c : Char} {e : List Char} (h : shortEscape? c = some e) :
    ∃ d, e = ['\\', d] ∧ d ≠ 'u' ∧ unescape? d = some c := by
  have hchar {n : Nat} (hn : c.toNat = n) : c = Char.ofNat n := by rw [← hn, Char.ofNat_toNat]
  unfold shortEscape? at h
  repeat' split at h
  all_goals first
    | contradiction
    | obtain rfl := Option.some.inj h
  · exact ⟨'"', rfl, by decide, by simp_all [unescape?]⟩
  · exact ⟨'\\', rfl, by decide, by simp_all [unescape?]⟩
  · exact ⟨'n', rfl, by decide, by simp_all [unescape?]⟩
  · exact ⟨'r', rfl, by decide, by simp_all [unescape?]⟩
  · exact ⟨'t', rfl, by decide, by simp_all [unescape?]⟩
  · rename_i hb
    exact ⟨'b', rfl, by decide, by simp [unescape?, hchar hb]⟩
  · rename_i hf
    exact ⟨'f', rfl, by decide, by simp [unescape?, hchar hf]⟩

theorem readString_shortEscape {c : Char} {e : List Char} (h : shortEscape? c = some e)
    (read rest : List Char) : readString none read (e ++ rest) = readString none (c :: read) rest := by
  obtain ⟨d, rfl, hd, hunescape⟩ := unescape?_of_shortEscape? h
  rw [List.cons_append, List.cons_append, List.nil_append, readString.eq_def]
  simp [hd, hunescape]

/-- A character that needs no escape is read as it is. -/
theorem readString_plain {c : Char} (hshort : shortEscape? c = none) (hcontrol : ¬c.toNat < 0x20)
    (read rest : List Char) : readString none read (c :: rest) = readString none (c :: read) rest := by
  have hquote : c ≠ '"' := by
    rintro rfl
    contradiction
  have hslash : c ≠ '\\' := by
    rintro rfl
    contradiction
  rw [readString.eq_def]
  simp [hquote, hslash, hcontrol]

/-- Characters that are escaped one by one so that each is read back. -/
def IsReadBack (escape : Char → List Char) : Prop :=
  ∀ c read rest, readString none read (escape c ++ rest) = readString none (c :: read) rest

theorem isReadBack_escapeChar : IsReadBack escapeChar := by
  intro c read rest
  unfold escapeChar
  cases hshort : shortEscape? c with
  | some e => exact readString_shortEscape hshort read rest
  | none =>
    by_cases hcontrol : c.toNat < 0x20
    · have hhigh : isHighHalf c.toNat = false := by simp [isHighHalf]; omega
      have hlow : isLowHalf c.toNat = false := by simp [isLowHalf]; omega
      have hunit := readString_unit (by omega) hhigh hlow read rest
      simpa only [hcontrol, if_true, Char.ofNat_toNat] using hunit
    · simp only [hcontrol, if_false, List.singleton_append]
      exact readString_plain hshort hcontrol read rest

/-- No character is half of a pair, or beyond all pairs. -/
theorem toNat_cases (c : Char) : c.toNat < 0xD800 ∨ 0xDFFF < c.toNat ∧ c.toNat < 0x110000 := c.valid

theorem isHalf_toNat (c : Char) : isHighHalf c.toNat = false ∧ isLowHalf c.toNat = false := by
  have hvalid := toNat_cases c
  simp only [isHighHalf, isLowHalf, Bool.and_eq_false_iff, decide_eq_false_iff_not]
  omega

theorem isReadBack_escapeAscii : IsReadBack escapeAscii := by
  intro c read rest
  unfold escapeAscii
  cases hshort : shortEscape? c with
  | some e => exact readString_shortEscape hshort read rest
  | none =>
    dsimp only
    split
    · rename_i hplain
      have hcontrol : ¬c.toNat < 0x20 := by
        simp only [Bool.and_eq_true, decide_eq_true_eq] at hplain
        omega
      exact readString_plain hshort hcontrol read rest
    · split
      · rename_i hone
        obtain ⟨hhigh, hlow⟩ := isHalf_toNat c
        rw [readString_unit hone hhigh hlow, Char.ofNat_toNat]
      · -- Beyond the units the offset has twenty bits, ten for each half.
        rename_i hplain hone
        have hvalid := toNat_cases c
        have hlower : (c.toNat - 0x10000) % 0x400 < 0x400 := Nat.mod_lt _ (by decide)
        have hhigh : isHighHalf (0xD800 + (c.toNat - 0x10000) / 0x400) = true := by
          simp only [isHighHalf, Bool.and_eq_true, decide_eq_true_eq]
          omega
        have hlow : isLowHalf (0xDC00 + (c.toNat - 0x10000) % 0x400) = true := by
          simp only [isLowHalf, Bool.and_eq_true, decide_eq_true_eq]
          omega
        have hcode : 0x10000 + (0xD800 + (c.toNat - 0x10000) / 0x400 - 0xD800) * 0x400 +
            (0xDC00 + (c.toNat - 0x10000) % 0x400 - 0xDC00) = c.toNat := by
          omega
        rw [List.append_assoc, readString_high hhigh, readString_low hlow, hcode, Char.ofNat_toNat]

/-- A string is read back as what was written, up to its closing quote. -/
theorem IsReadBack.readString {escape : Char → List Char} (h : IsReadBack escape)
    (s read rest : List Char) :
    readString none read (s.flatMap escape ++ '"' :: rest) = some (read.reverse ++ s, rest) := by
  induction s generalizing read with
  | nil =>
    rw [List.flatMap_nil, List.nil_append, readString.eq_def]
    simp
  | cons c s ih =>
    rw [List.flatMap_cons, List.append_assoc, h, ih]
    simp

theorem readString_escape (s read rest : List Char) :
    readString none read (s.flatMap escapeChar ++ '"' :: rest) =
      some (read.reverse ++ s, rest) :=
  isReadBack_escapeChar.readString s read rest

end Strings

section Scalars

theorem isShown_of_mem_numerals : ∀ c ∈ numerals, IsShown c := by
  have hshown : Shown (String.ofList numerals) := by decide
  rwa [Shown, String.toList_ofList] at hshown

theorem isShown_of_mem_hex (width n : Nat) : ∀ c ∈ Text.hex width n, IsShown c := by
  intro c hc
  obtain hc | hc := List.mem_append.mp hc
  · rw [(List.mem_replicate.mp hc).2]
    decide
  · exact isShown_of_mem_numerals c
      (toDigits_subset (by decide) (by decide) n hc)

theorem isShown_of_mem_unit (n : Nat) : ∀ c ∈ unit n, IsShown c :=
  List.forall_mem_cons.mpr ⟨by decide, List.forall_mem_cons.mpr ⟨by decide, isShown_of_mem_hex 4 n⟩⟩

theorem isShown_of_mem_shortEscape {c : Char} {e : List Char} (h : shortEscape? c = some e) :
    ∀ d ∈ e, IsShown d := by
  unfold shortEscape? at h
  repeat' split at h
  all_goals first
    | contradiction
    | (obtain rfl := Option.some.inj h
       exact List.forall_mem_cons.mpr ⟨by decide, List.forall_mem_singleton.mpr (by decide)⟩)

theorem isShown_of_mem_escapeChar (c : Char) : ∀ d ∈ escapeChar c, IsShown d := by
  unfold escapeChar
  cases hshort : shortEscape? c with
  | some e => exact isShown_of_mem_shortEscape hshort
  | none =>
    by_cases hcontrol : c.toNat < 0x20
    · simp only [hcontrol, if_true]
      exact isShown_of_mem_unit _
    · simp only [hcontrol, if_false, List.forall_mem_singleton]
      exact Nat.le_of_not_lt hcontrol

theorem isShown_of_mem_escapeAscii (c : Char) : ∀ d ∈ escapeAscii c, IsShown d := by
  unfold escapeAscii
  cases hshort : shortEscape? c with
  | some e => exact isShown_of_mem_shortEscape hshort
  | none =>
    dsimp only
    split
    · rename_i hplain
      rw [Bool.and_eq_true, decide_eq_true_eq] at hplain
      exact List.forall_mem_singleton.mpr hplain.1
    · split
      · exact isShown_of_mem_unit _
      · exact List.forall_mem_append.mpr ⟨isShown_of_mem_unit _, isShown_of_mem_unit _⟩

/-- A way of writing whose escapes, words and marks hold no controls. -/
structure Style.IsPlain (style : Style) : Prop where
  escape : ∀ c, ∀ d ∈ style.escape c, IsShown d
  words : Shown style.number.notANumber ∧ Shown style.number.infinite ∧
    Shown style.number.negativeInfinite
  marks : Shown style.comma ∧ Shown style.colon

theorem isPlain_compact : compact.IsPlain := ⟨isShown_of_mem_escapeChar, by decide, by decide⟩

theorem isPlain_ascii : ascii.IsPlain := ⟨isShown_of_mem_escapeAscii, by decide, by decide⟩

theorem shown_int (n : Int) : Shown (toString n) := fun c hc =>
  isShown_of_mem_numerals c (toString_subset n hc)

variable {style : Style}

theorem shown_string (hstyle : style.IsPlain) (s : String) : Shown (style.string s) := by
  simp only [Shown, Style.string, String.toList_ofList, List.cons_append,
    List.forall_mem_cons, List.forall_mem_append, List.forall_mem_flatMap]
  exact ⟨by decide, fun c _ => hstyle.escape c, by decide, by simp⟩

theorem shown_number (hstyle : style.IsPlain) (x : Binary64) : Shown (style.number.text x) := by
  intro c hc
  obtain hnumeral | hword := Binary64.mem_text style.number x c hc
  · exact isShown_of_mem_numerals c hnumeral
  · obtain ⟨hnone, hinfinite, hnegative⟩ := hstyle.words
    obtain hword | hword | hword := hword
    · exact hnone c hword
    · exact hinfinite c hword
    · exact hnegative c hword

theorem shown_scalar? (hstyle : style.IsPlain) (v : Value) :
    Shown ((style.scalar? v).getD "") := by
  have hwords : Shown "null" ∧ Shown "true" ∧ Shown "false" ∧ Shown "" := by decide
  obtain ⟨hnull, htrue, hfalse, hempty⟩ := hwords
  cases v with
  | null => exact hnull
  | bool b => cases b <;> assumption
  | int n => exact shown_int n
  | float x => exact shown_number hstyle x
  | text s => exact shown_string hstyle s
  | moment m => exact shown_string hstyle m.text
  | list items => exact hempty
  | object fields => exact hempty

mutual

/-- A value on one line has no line end. -/
theorem shown_line (hstyle : style.IsPlain) (v : Value) : Shown (style.line v) := by
  have hbrackets : Shown "[" ∧ Shown "]" ∧ Shown "\x7b" ∧ Shown "\x7d" := by decide
  obtain ⟨hopen, hclose, hleft, hright⟩ := hbrackets
  cases v with
  | list items =>
    exact (hopen.append (hstyle.marks.1.intercalate (shown_lineItems hstyle items))).append hclose
  | object fields =>
    exact (hleft.append (hstyle.marks.1.intercalate (shown_lineFields hstyle fields))).append hright
  | _ => exact shown_scalar? hstyle _

theorem shown_lineItems (hstyle : style.IsPlain) (items : List Value) :
    ∀ s ∈ lineItems style items, Shown s := by
  cases items with
  | nil => simp [lineItems]
  | cons v rest => exact List.forall_mem_cons.mpr ⟨shown_line hstyle v, shown_lineItems hstyle rest⟩

theorem shown_lineFields (hstyle : style.IsPlain) (fields : List (String × Value)) :
    ∀ s ∈ lineFields style fields, Shown s := by
  cases fields with
  | nil => simp [lineFields]
  | cons field rest =>
    obtain ⟨name, v⟩ := field
    exact List.forall_mem_cons.mpr ⟨((shown_string hstyle name).append hstyle.marks.2).append
      (shown_line hstyle v), shown_lineFields hstyle rest⟩

end

end Scalars

section Indented

theorem body_indentation (level : Nat) : Body (indentation level) := by
  intro c hc
  rw [indentation, String.toList_ofList] at hc
  obtain rfl | hc := List.mem_cons.mp hc
  · exact .inl rfl
  · rw [(List.mem_replicate.mp hc).2]
    exact .inr (by decide)

theorem body_bracketed {left right : String} (hleft : Body left) (hright : Body right) (level : Nat)
    {parts : List String} (h : ∀ s ∈ parts, Body s) : Body (bracketed left right level parts) := by
  have hcomma : Body "," := by decide
  unfold bracketed
  split
  · exact hleft.append hright
  · exact (((hleft.append (body_indentation _)).append
      ((hcomma.append (body_indentation _)).intercalate h)).append (body_indentation _)).append hright

mutual

theorem body_indentedAt (level : Nat) (v : Value) : Body (indentedAt level v) := by
  cases v with
  | list items =>
    exact body_bracketed (by decide) (by decide) level
      (body_indentedItems (level + 1) items)
  | object fields =>
    exact body_bracketed (by decide) (by decide) level
      (body_indentedFields (level + 1) fields)
  | _ => exact (shown_scalar? isPlain_compact _).body

theorem body_indentedItems (level : Nat) (items : List Value) :
    ∀ s ∈ indentedItems level items, Body s := by
  cases items with
  | nil => simp [indentedItems]
  | cons v rest =>
    exact List.forall_mem_cons.mpr ⟨body_indentedAt level v, body_indentedItems level rest⟩

theorem body_indentedFields (level : Nat) (fields : List (String × Value)) :
    ∀ s ∈ indentedFields level fields, Body s := by
  cases fields with
  | nil => simp [indentedFields]
  | cons field rest =>
    obtain ⟨name, v⟩ := field
    have hcolon : Body ": " := by decide
    exact List.forall_mem_cons.mpr ⟨((shown_string isPlain_compact name).body.append hcolon).append
      (body_indentedAt level v), body_indentedFields level rest⟩

end

theorem body_indented (v : Value) : Body (indented v) := body_indentedAt 0 v

end Indented

end BuildLauncher.Json

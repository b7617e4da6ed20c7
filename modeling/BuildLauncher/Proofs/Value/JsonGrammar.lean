import BuildLauncher.Proofs.Settings.Merging
import BuildLauncher.Proofs.Value.JsonNumbers
import BuildLauncher.Proofs.Value.JsonText

/-!
# Texts that spell values

A JSON text spells a value, with blanks beside its marks or without, if its scalars and its names are
read back one by one. Whatever spells a value is read as that value (`readWithin_spells`).
-/
namespace BuildLauncher

section Values

variable (limit : Option Nat)

mutual

/-- Does JSON write a value as it is? There are no numbers for what is not finite and no dates, and no
name stands twice in an object. Where readers have a limit, integers have no more digits. -/
def Value.isJson : Value → Bool
  | .null | .bool _ | .text _ | .float (.finite _) => true
  | .int n => limit.all fun most => (Nat.toDigits 10 n.natAbs).length ≤ most
  | .float _ | .moment _ => false
  | .list items => itemsJson items
  | .object fields => decide (fields.map Prod.fst).Nodup && fieldsJson fields

def itemsJson : List Value → Bool
  | [] => true
  | v :: rest => v.isJson && itemsJson rest

def fieldsJson : List (String × Value) → Bool
  | [] => true
  | (_, v) :: rest => v.isJson && fieldsJson rest

end

variable {limit}

theorem fieldsJson_iff {fields : List (String × Value)} :
    fieldsJson limit fields = true ↔ ∀ p ∈ fields, p.2.isJson limit = true := by
  induction fields with
  | nil => simp [fieldsJson]
  | cons field rest ih => simp [fieldsJson, ih]

theorem Value.isJson_object {fields : Fields} : (Value.object fields).isJson limit = true ↔
    (fields.map Prod.fst).Nodup ∧ ∀ p ∈ fields, p.2.isJson limit = true := by
  simp [Value.isJson, fieldsJson_iff]

end Values

namespace Json

/-- Blanks beside the marks of a text. -/
def Blank (s : List Char) : Prop := ∀ c ∈ s, isJsonBlank c = true

instance (s : List Char) : Decidable (Blank s) := List.decidableBAll ..

/-- A text that is read as a value, whatever it ends at. -/
def ReadsAs (limit : Option Nat) (v : Value) (s : List Char) : Prop :=
  ∀ depth rest, Ends rest → readValue limit (depth + 1) (s ++ rest) = some (v, rest)

/-- A text that is read as a name, whatever follows it. -/
def ReadsAsName (name : String) (s : List Char) : Prop :=
  ∃ quoted, s = '"' :: quoted ∧
    ∀ rest, readString none [] (quoted ++ rest) = some (name.toList, rest)

section Grammar

variable (limit : Option Nat)

mutual

/-- The texts that spell a value. -/
inductive Spells : Value → List Char → Prop
  | scalar {v : Value} {s : List Char} (h : ReadsAs limit v s) : Spells v s
  | noItems {b : List Char} (hb : Blank b) : Spells (.list []) ('[' :: (b ++ [']']))
  | items {items : List Value} {b s : List Char} (hb : Blank b) (h : SpellsItems items s) :
      Spells (.list items) ('[' :: (b ++ s))
  | noFields {b : List Char} (hb : Blank b) : Spells (.object []) ('\x7b' :: (b ++ ['\x7d']))
  | fields {fields : List (String × Value)} {b s : List Char} (hb : Blank b)
      (hdistinct : (fields.map Prod.fst).Nodup) (h : SpellsFields fields s) :
      Spells (.object fields) ('\x7b' :: (b ++ s))

/-- The texts of the items of a list, up to the closing bracket. -/
inductive SpellsItems : List Value → List Char → Prop
  | last {v : Value} {s b : List Char} (h : Spells v s) (hb : Blank b) :
      SpellsItems [v] (s ++ (b ++ [']']))
  | next {v : Value} {items : List Value} {s b b' t : List Char} (h : Spells v s) (hb : Blank b)
      (hb' : Blank b') (hrest : SpellsItems items t) :
      SpellsItems (v :: items) (s ++ (b ++ ',' :: (b' ++ t)))

/-- The texts of the fields of an object, up to the closing brace. -/
inductive SpellsFields : List (String × Value) → List Char → Prop
  | last {name : String} {v : Value} {n s a a' b : List Char} (hname : ReadsAsName name n)
      (ha : Blank a) (ha' : Blank a') (h : Spells v s) (hb : Blank b) :
      SpellsFields [(name, v)] (n ++ (a ++ ':' :: (a' ++ (s ++ (b ++ ['\x7d'])))))
  | next {name : String} {v : Value} {fields : List (String × Value)}
      {n s a a' b b' t : List Char} (hname : ReadsAsName name n)
      (ha : Blank a) (ha' : Blank a') (h : Spells v s) (hb : Blank b) (hb' : Blank b')
      (hrest : SpellsFields fields t) :
      SpellsFields ((name, v) :: fields)
        (n ++ (a ++ ':' :: (a' ++ (s ++ (b ++ ',' :: (b' ++ t))))))

end

end Grammar

section Blanks

variable {b s : List Char} {c : Char}

theorem skipBlanks_append (hb : Blank b) (s : List Char) : skipBlanks (b ++ s) = skipBlanks s :=
  List.dropWhile_append_of_pos hb

theorem skipBlanks_cons (hc : isJsonBlank c = false) (s : List Char) : skipBlanks (c :: s) = c :: s :=
  List.dropWhile_cons_of_neg (by simp [hc])

theorem blank_nil : Blank [] := by simp [Blank]

theorem Blank.append (hb : Blank b) (hs : Blank s) : Blank (b ++ s) := by
  intro c hc
  exact (List.mem_append.mp hc).elim (hb c) (hs c)

/-- Blanks before a mark end a value. -/
theorem ends_append (hb : Blank b) (hc : c ∈ terminators) (s : List Char) : Ends (b ++ c :: s) := by
  cases b with
  | nil => exact ends_cons hc
  | cons d more =>
    have hd : isJsonBlank d = true := hb d (by simp)
    apply ends_cons
    simp only [isJsonBlank, Bool.or_eq_true, decide_eq_true_eq] at hd
    obtain ((rfl | rfl) | rfl) | rfl := hd <;> decide

end Blanks

section Numbers

variable {limit : Option Nat} {s : List Char} {r : Value × List Char}

/-- What is read as a number starts with a digit, but for its sign. -/
theorem readNumber_start (h : readNumber limit s = some r) :
    ∃ negative c more, s = minus negative ++ c :: more ∧ isDigit c = true := by
  have hsign : ∃ negative, s = minus negative ++ (readSign s).2 := by
    unfold readSign
    split
    · exact ⟨true, rfl⟩
    · exact ⟨false, rfl⟩
  have hwhole : wholeDigits (readSign s).2 ≠ [] := by
    intro hempty
    simp [readNumber, hempty] at h
  have hstart : ∃ c more, (readSign s).2 = c :: more ∧ isDigit c = true := by
    generalize (readSign s).2 = t at hwhole
    cases t with
    | nil => exact absurd rfl hwhole
    | cons c more =>
      refine ⟨c, more, rfl, ?_⟩
      by_cases hzero : c = '0'
      · rw [hzero]
        rfl
      · by_contra hc
        simp [wholeDigits, hzero, hc] at hwhole
  obtain ⟨negative, hs⟩ := hsign
  obtain ⟨c, more, hrest, hc⟩ := hstart
  exact ⟨negative, c, more, by rw [hs, hrest], hc⟩

/-- No word starts like a number. -/
theorem readWord_number (negative : Bool) {c : Char} (hc : isDigit c = true) (more : List Char) :
    readWord (minus negative ++ c :: more) = none := by
  have hletters : c ∉ ['n', 't', 'f', 'N', 'I', '-'] := ne_of_isDigit (by decide) hc
  simp only [List.mem_cons, not_or] at hletters
  obtain ⟨hn, ht, hf, hN, hI, hminus, -⟩ := hletters
  cases negative with
  | true => simp [readWord, words, minus, Ne.symm hI]
  | false =>
    simp [readWord, words, minus, Ne.symm hn, Ne.symm ht, Ne.symm hf, Ne.symm hN, Ne.symm hI,
      Ne.symm hminus]

/-- What starts with no quote and no bracket is a word or a number. -/
theorem readValue_cons (limit : Option Nat) (depth : Nat) {c : Char} (hc : c ∉ ['"', '[', '\x7b'])
    (more : List Char) : readValue limit (depth + 1) (c :: more) =
      (readWord (c :: more)).or (readNumber limit (c :: more)) := by
  simp only [List.mem_cons, List.not_mem_nil, or_false, not_or] at hc
  obtain ⟨hquote, hlist, hobject⟩ := hc
  rw [readValue]
  · simp [hobject]
  · exact hquote
  · exact hlist

/-- A number is a value. -/
theorem readValue_number {depth : Nat} (h : readNumber limit s = some r) :
    readValue limit (depth + 1) s = some r := by
  obtain ⟨negative, c, more, rfl, hc⟩ := readNumber_start h
  have hword := readWord_number negative hc more
  have hstart : ∃ d t, minus negative ++ c :: more = d :: t ∧ d ∉ ['"', '[', '\x7b'] := by
    cases negative with
    | true => exact ⟨'-', c :: more, rfl, by decide⟩
    | false => exact ⟨c, more, rfl, ne_of_isDigit (by decide) hc⟩
  obtain ⟨d, t, heq, hd⟩ := hstart
  rw [heq] at h hword ⊢
  rw [readValue_cons limit depth hd, hword]
  exact h

end Numbers

section Reading

variable {limit : Option Nat} {v : Value} {text : String} {s rest : List Char} {depth : Nat}

theorem readValue_word {c : Char} {more : List Char} {r : Value × List Char}
    (hc : c ∉ ['"', '[', '\x7b']) (h : readWord (c :: more) = some r) :
    readValue limit (depth + 1) (c :: more) = some r := by
  rw [readValue_cons limit depth hc, h]
  rfl

/-- A character that a value may start with. -/
def IsStart (c : Char) : Prop := isJsonBlank c = false ∧ c ≠ ']'

theorem isStart_of_readWord {c : Char} {more : List Char} {r : Value × List Char}
    (h : readWord (c :: more) = some r) : IsStart c := by
  have hwords : ∀ p ∈ words, ∃ d letters, p.1.toList = d :: letters ∧ IsStart d := by
    simp [words, IsStart, isJsonBlank]
  obtain ⟨⟨word, value⟩, hmem, hsome⟩ := List.exists_of_findSome?_eq_some h
  obtain ⟨d, letters, hletters, hstart⟩ := hwords _ hmem
  simp only [hletters, List.isPrefixOf_cons_cons, Bool.and_eq_true, beq_iff_eq] at hsome
  split at hsome
  · rename_i hprefix
    rwa [← hprefix.1]
  · contradiction

theorem isStart_of_readNumber {c : Char} {more : List Char} {r : Value × List Char}
    (h : readNumber limit (c :: more) = some r) : IsStart c := by
  obtain ⟨negative, d, digits, hs, hd⟩ := readNumber_start h
  cases negative with
  | true =>
    obtain ⟨rfl, -⟩ : c = '-' ∧ more = d :: digits := List.cons_eq_cons.mp hs
    exact ⟨rfl, by decide⟩
  | false =>
    obtain ⟨rfl, -⟩ : c = d ∧ more = digits := List.cons_eq_cons.mp hs
    have hmarks : c ∉ [' ', '\t', '\n', '\r', ']'] := ne_of_isDigit (by decide) hd
    simp only [List.mem_cons, List.not_mem_nil, or_false, not_or] at hmarks
    simpa [IsStart, isJsonBlank, and_assoc] using hmarks

/-- No value starts with a blank or with the end of a list. -/
theorem start_of_readValue {r : Value × List Char} (h : readValue limit (depth + 1) s = some r) :
    ∃ c more, s = c :: more ∧ IsStart c := by
  cases s with
  | nil => simp [readValue] at h
  | cons c more =>
    refine ⟨c, more, rfl, ?_⟩
    by_cases hmark : c ∈ ['"', '[', '\x7b']
    · have hmarks : ∀ c ∈ ['"', '[', '\x7b'], IsStart c := by simp [IsStart, isJsonBlank]
      exact hmarks c hmark
    · rw [readValue_cons limit depth hmark] at h
      cases hword : readWord (c :: more) with
      | some w => exact isStart_of_readWord hword
      | none =>
        rw [hword, Option.none_or] at h
        exact isStart_of_readNumber h

theorem Spells.start (h : Spells limit v s) : ∃ c more, s = c :: more ∧ IsStart c := by
  cases h with
  | scalar h =>
    have hread := h 0 [] (by simp [Ends])
    rw [List.append_nil] at hread
    exact start_of_readValue hread
  | noItems | items => exact ⟨'[', _, rfl, rfl, by decide⟩
  | noFields | fields => exact ⟨'\x7b', _, rfl, rfl, by decide⟩

/-- Blanks before a value are skipped. -/
theorem Spells.skip {b : List Char} (h : Spells limit v s) (hb : Blank b) (rest : List Char) :
    skipBlanks (b ++ (s ++ rest)) = s ++ rest := by
  obtain ⟨c, more, rfl, hblank, -⟩ := h.start
  rw [skipBlanks_append hb, List.cons_append, skipBlanks_cons hblank]

theorem SpellsItems.skip {items : List Value} {b : List Char} (h : SpellsItems limit items s) (hb : Blank b)
    (rest : List Char) :
    skipBlanks (b ++ (s ++ rest)) = s ++ rest ∧ (s ++ rest).head? ≠ some ']' := by
  have hfirst {v : Value} {t more : List Char} (h : Spells limit v t) :
      skipBlanks (b ++ ((t ++ more) ++ rest)) = (t ++ more) ++ rest ∧
        ((t ++ more) ++ rest).head? ≠ some ']' := by
    have hskip := h.skip hb (more ++ rest)
    obtain ⟨c, others, rfl, -, hbracket⟩ := h.start
    rw [List.append_assoc]
    exact ⟨hskip, by simpa using hbracket⟩
  cases h with
  | last h => exact hfirst h
  | next h => exact hfirst h

/-- The fields of an object start with the quote of a name. -/
theorem SpellsFields.skip {fields : List (String × Value)} {b : List Char}
    (h : SpellsFields limit fields s) (hb : Blank b) (rest : List Char) :
    skipBlanks (b ++ (s ++ rest)) = s ++ rest ∧ (s ++ rest).head? ≠ some '\x7d' := by
  rw [skipBlanks_append hb]
  cases h with
  | last hname | next hname =>
    obtain ⟨quoted, rfl, -⟩ := hname
    exact ⟨skipBlanks_cons (by decide) _, by simp⟩

/-- A name that no field has had yet. -/
theorem not_mem_of_distinct {read more : Fields} {name : String}
    (h : ((read ++ (name, v) :: more).map Prod.fst).Nodup) : name ∉ read.map Prod.fst := by
  rw [List.map_append, List.nodup_append] at h
  intro hname
  exact h.2.2 name hname name (by simp) rfl

/-- A field is read up to the mark behind its value: a comma, or the end of the object. -/
theorem readFields_field {name : String} {n a a' more tail : List Char} {mark : Char} (read : Fields)
    (hname : ReadsAsName name n) (ha : Blank a) (ha' : Blank a') (h : Spells limit v s)
    (hread : readValue limit depth (s ++ more) = some (v, more))
    (hmark : skipBlanks more = mark :: tail) :
    readFields limit (depth + 1) read (n ++ (a ++ ':' :: (a' ++ (s ++ more)))) =
      if mark = ',' then readFields limit depth (read.set name v) (skipBlanks tail)
      else if mark = '\x7d' then some (.object (read.set name v), tail) else none := by
  obtain ⟨quoted, rfl, hquoted⟩ := hname
  rw [List.cons_append, readFields, hquoted]
  dsimp only
  rw [skipBlanks_append ha, skipBlanks_cons (by decide)]
  simp only [h.skip ha', hread, hmark, String.ofList_toList]
  by_cases hcomma : mark = ','
  · subst hcomma
    simp
  · simp [hcomma]

mutual

/-- A text that spells a value is read as it, whatever follows. The text bounds the depth. -/
theorem readValue_spells (v : Value) {s : List Char} (h : Spells limit v s)
    {rest : List Char} (hrest : Ends rest) {depth : Nat}
    (hdepth : s.length < depth) : readValue limit depth (s ++ rest) = some (v, rest) := by
  obtain ⟨depth, rfl⟩ := Nat.exists_eq_succ_of_ne_zero (Nat.ne_zero_of_lt hdepth)
  cases h with
  | scalar h => exact h depth rest hrest
  | noItems hb =>
    rw [List.cons_append, List.append_assoc, readValue, skipBlanks_append hb, List.singleton_append,
      skipBlanks_cons (by decide)]
    rfl
  | @items items b t hb h =>
    have hdepth' : t.length < depth := by
      simp only [List.length_cons, List.length_append] at hdepth
      omega
    have hread := readItems_spells items h [] rest hdepth'
    obtain ⟨hskip, hbracket⟩ := h.skip hb rest
    rw [List.cons_append, List.append_assoc, readValue, hskip, if_neg hbracket]
    exact hread
  | noFields hb =>
    rw [List.cons_append, List.append_assoc, readValue, if_pos rfl, skipBlanks_append hb,
      List.singleton_append, skipBlanks_cons (by decide)]
    · rfl
    · decide
    · decide
  | @fields fields b t hb hdistinct h =>
    have hdepth' : t.length < depth := by
      simp only [List.length_cons, List.length_append] at hdepth
      omega
    have hread := readFields_spells fields h [] hdistinct rest hdepth'
    obtain ⟨hskip, hbrace⟩ := h.skip hb rest
    rw [List.cons_append, List.append_assoc, readValue, if_pos rfl, hskip, if_neg hbrace]
    · exact hread
    · decide
    · decide
termination_by structural v

theorem readItems_spells (items : List Value) {s : List Char} (h : SpellsItems limit items s)
    (read : List Value) (rest : List Char) {depth : Nat} (hdepth : s.length < depth) :
    readItems limit depth read (s ++ rest) = some (.list (read.reverse ++ items), rest) := by
  obtain ⟨depth, rfl⟩ := Nat.exists_eq_succ_of_ne_zero (Nat.ne_zero_of_lt hdepth)
  cases h with
  | @last v t b h hb =>
    have hdepth' : t.length < depth := by
      simp only [List.length_append, List.length_singleton] at hdepth
      omega
    have hends : Ends (b ++ ']' :: rest) := ends_append hb (by decide) rest
    have hread := readValue_spells v h hends hdepth'
    rw [List.append_assoc, List.append_assoc, List.singleton_append, readItems, hread]
    dsimp only
    rw [skipBlanks_append hb, skipBlanks_cons (by decide)]
    simp
  | @next v items t b b' u h hb hb' hmore =>
    have hdepths : t.length < depth ∧ u.length < depth := by
      simp only [List.length_append, List.length_cons] at hdepth
      omega
    have hends : Ends (b ++ ',' :: (b' ++ (u ++ rest))) := ends_append hb (by decide) _
    have hread := readValue_spells v h hends hdepths.1
    have hreads := readItems_spells items hmore (v :: read) rest hdepths.2
    obtain ⟨hskip, -⟩ := hmore.skip hb' rest
    rw [List.append_assoc, List.append_assoc, List.cons_append, List.append_assoc, readItems, hread]
    dsimp only
    rw [skipBlanks_append hb, skipBlanks_cons (by decide)]
    simp only [hskip, hreads]
    simp
termination_by structural items

theorem readFields_spells (fields : List (String × Value)) {s : List Char}
    (h : SpellsFields limit fields s) (read : Fields)
    (hdistinct : ((read ++ fields).map Prod.fst).Nodup)
    (rest : List Char) {depth : Nat} (hdepth : s.length < depth) :
    readFields limit depth read (s ++ rest) = some (.object (read ++ fields), rest) := by
  obtain ⟨depth, rfl⟩ := Nat.exists_eq_succ_of_ne_zero (Nat.ne_zero_of_lt hdepth)
  cases h with
  | @last name v n t a a' b hname ha ha' h hb =>
    have hdepth' : t.length < depth := by
      simp only [List.length_append, List.length_cons] at hdepth
      omega
    have hends : Ends (b ++ '\x7d' :: rest) := ends_append hb (by decide) rest
    have hread := readValue_spells v h hends hdepth'
    have hmark : skipBlanks (b ++ '\x7d' :: rest) = '\x7d' :: rest := by
      rw [skipBlanks_append hb, skipBlanks_cons (by decide)]
    have hfield := readFields_field read hname ha ha' h hread hmark
    simp only [List.append_assoc, List.cons_append, List.nil_append]
    rw [hfield, if_neg (by decide), if_pos rfl, Fields.set_of_not_mem (not_mem_of_distinct hdistinct)]
  | @next name v fields n t a a' b b' u hname ha ha' h hb hb' hmore =>
    have hdepths : t.length < depth ∧ u.length < depth := by
      simp only [List.length_append, List.length_cons] at hdepth
      omega
    have hends : Ends (b ++ ',' :: (b' ++ (u ++ rest))) := ends_append hb (by decide) _
    have hread := readValue_spells v h hends hdepths.1
    have hset : read.set name v = read ++ [(name, v)] := Fields.set_of_not_mem (not_mem_of_distinct hdistinct) v
    have hdistinct' : ((read.set name v ++ fields).map Prod.fst).Nodup := by
      rw [hset, List.append_assoc]
      exact hdistinct
    have hreads := readFields_spells fields hmore (read.set name v) hdistinct' rest hdepths.2
    obtain ⟨hskip, -⟩ := hmore.skip hb' rest
    have hmark : skipBlanks (b ++ ',' :: (b' ++ (u ++ rest))) = ',' :: (b' ++ (u ++ rest)) := by
      rw [skipBlanks_append hb, skipBlanks_cons (by decide)]
    have hfield := readFields_field read hname ha ha' h hread hmark
    simp only [List.append_assoc, List.cons_append]
    rw [hfield, if_pos rfl, hskip, hreads, hset, List.append_assoc]
    rfl
termination_by structural fields

end

/-- A text that spells a value is read as it. -/
theorem readWithin_spells {text : String} (h : Spells limit v text.toList) :
    readWithin limit text = some v := by
  have hskip : skipBlanks text.toList = text.toList := by simpa using h.skip blank_nil []
  have hends : Ends [] := by simp [Ends]
  have hread := readValue_spells v h hends (Nat.lt_succ_self text.toList.length)
  rw [List.append_nil] at hread
  unfold readWithin
  dsimp only
  rw [hskip, hread]
  rfl

end Reading

end Json
end BuildLauncher

import BuildLauncher.Proofs.Value.JsonGrammar

/-!
# Reading written values back

A value is spelled by its line as well as by its lines (`spells_line`, `spells_indentedAt`), so that it
is read back from either (`readWithin_line`, `readWithin_indented`), and from a line in ASCII as well
(`readWithin_ascii`).
-/
namespace BuildLauncher.Json

section Scalars

variable {limit : Option Nat} {style : Style}

theorem readsAs_word {text : String} {c : Char} {more : List Char} (htext : text.toList = c :: more)
    (hc : c ∉ ['"', '[', '\x7b']) {v : Value}
    (h : ∀ rest, readWord (c :: (more ++ rest)) = some (v, rest)) : ReadsAs limit v text.toList := by
  intro depth rest _
  rw [htext]
  exact readValue_word hc (h rest)

/-- A way of writing that a reader reads back: its strings, and what stands between values. -/
structure Style.IsRead (style : Style) : Prop where
  escape : IsReadBack style.escape
  comma : ∃ b : String, Blank b.toList ∧ style.comma = "," ++ b
  colon : ∃ b : String, Blank b.toList ∧ style.colon = ":" ++ b

theorem isRead_compact : compact.IsRead :=
  ⟨isReadBack_escapeChar, ⟨"", blank_nil, rfl⟩, ⟨"", blank_nil, rfl⟩⟩

theorem isRead_ascii : ascii.IsRead :=
  ⟨isReadBack_escapeAscii, ⟨" ", by decide, rfl⟩, ⟨" ", by decide, rfl⟩⟩

theorem Style.IsRead.name (h : style.IsRead) (name : String) :
    ReadsAsName name (style.string name).toList := by
  refine ⟨name.toList.flatMap style.escape ++ ['"'], String.toList_ofList, fun rest => ?_⟩
  rw [List.append_assoc, List.singleton_append, h.escape.readString]
  rfl

/-- A scalar is read back. -/
theorem Style.IsRead.scalar (h : style.IsRead) {v : Value} (hv : v.isJson limit = true)
    {text : String} (htext : style.scalar? v = some text) : ReadsAs limit v text.toList := by
  cases v with
  | null =>
    obtain rfl : "null" = text := Option.some.inj htext
    exact readsAs_word rfl (by decide) fun _ => rfl
  | bool b =>
    cases b with
    | true =>
      obtain rfl : "true" = text := Option.some.inj htext
      exact readsAs_word rfl (by decide) fun _ => rfl
    | false =>
      obtain rfl : "false" = text := Option.some.inj htext
      exact readsAs_word rfl (by decide) fun _ => rfl
  | int n =>
    have hdigits : ∀ most ∈ limit, (Nat.toDigits 10 n.natAbs).length ≤ most := by
      rintro most rfl
      simpa [Value.isJson] using hv
    obtain rfl : toString n = text := Option.some.inj htext
    exact fun _ _ hrest => readValue_number (readNumber_toString hdigits hrest)
  | float x =>
    cases x with
    | finite x =>
      obtain rfl : style.number.text (.finite x) = text := Option.some.inj htext
      exact fun _ _ hrest => readValue_number (readNumber_text limit style.number x hrest)
    | notANumber | infinite => simp [Value.isJson] at hv
  | text s =>
    obtain rfl : style.string s = text := Option.some.inj htext
    obtain ⟨quoted, hquoted, hread⟩ := h.name s
    intro depth rest _
    rw [hquoted, List.cons_append, readValue, hread]
    simp
  | moment m => simp [Value.isJson] at hv
  | list | object => contradiction

end Scalars

section Writing

variable {limit : Option Nat} {a b b' : String} {items : List Value} {fields : List (String × Value)}
  {parts : List String}

/-- A part of a list spells its item. -/
abbrev SpellsItem (limit : Option Nat) (v : Value) (part : String) : Prop := Spells limit v part.toList

/-- A part of an object spells the name and the value of its field. -/
def SpellsField (limit : Option Nat) (field : String × Value) (part : String) : Prop :=
  ∃ n a s, ReadsAsName field.1 n ∧ Blank a ∧ Spells limit field.2 s ∧
    part.toList = n ++ ':' :: (a ++ s)

theorem spellsItems_intercalate (hb : Blank b.toList) (hb' : Blank b'.toList)
    (h : List.Forall₂ (SpellsItem limit) items parts) (hitems : items ≠ []) :
    SpellsItems limit items ((("," ++ b).intercalate parts).toList ++ (b'.toList ++ [']'])) := by
  induction h with
  | nil => contradiction
  | @cons v part items parts hpart hparts ih =>
    cases hparts with
    | nil => exact .last (by simpa using hpart) hb'
    | @cons v' part' items parts hpart' hparts =>
      have hrest := ih (List.cons_ne_nil _ _)
      rw [String.intercalate_cons_of_ne_nil (List.cons_ne_nil _ _)]
      simpa using SpellsItems.next hpart blank_nil hb hrest

theorem spellsFields_intercalate (hb : Blank b.toList) (hb' : Blank b'.toList)
    (h : List.Forall₂ (SpellsField limit) fields parts) (hfields : fields ≠ []) :
    SpellsFields limit fields ((("," ++ b).intercalate parts).toList ++ (b'.toList ++ ['\x7d'])) := by
  induction h with
  | nil => contradiction
  | @cons field part fields parts hpart hparts ih =>
    obtain ⟨name, v⟩ := field
    obtain ⟨n, a, s, hname, ha, hs, hpart⟩ := hpart
    cases hparts with
    | nil =>
      have hlast : SpellsFields limit [(name, v)] _ := .last hname blank_nil ha hs hb'
      simpa [hpart] using hlast
    | @cons field' part' fields parts hpart' hparts =>
      have hrest := ih (List.cons_ne_nil _ _)
      rw [String.intercalate_cons_of_ne_nil (List.cons_ne_nil _ _)]
      have hnext : SpellsFields limit ((name, v) :: field' :: fields) _ :=
        .next hname blank_nil ha hs blank_nil hb hrest
      simpa [hpart] using hnext

/-- Parts between brackets spell a list. -/
theorem spells_list (ha : Blank a.toList) (hb : Blank b.toList) (hb' : Blank b'.toList)
    (h : List.Forall₂ (SpellsItem limit) items parts) :
    Spells limit (.list items) ("[" ++ a ++ ("," ++ b).intercalate parts ++ b' ++ "]").toList := by
  cases h with
  | nil => simpa using Spells.noItems (ha.append hb')
  | cons hpart hparts =>
    have hitems := spellsItems_intercalate hb hb' (.cons hpart hparts) (List.cons_ne_nil _ _)
    simpa using Spells.items ha hitems

/-- Parts between braces spell an object. -/
theorem spells_object (ha : Blank a.toList) (hb : Blank b.toList) (hb' : Blank b'.toList)
    (hdistinct : (fields.map Prod.fst).Nodup) (h : List.Forall₂ (SpellsField limit) fields parts) :
    Spells limit (.object fields)
      ("\x7b" ++ a ++ ("," ++ b).intercalate parts ++ b' ++ "\x7d").toList := by
  cases h with
  | nil => simpa using Spells.noFields (ha.append hb')
  | cons hpart hparts =>
    have hfields := spellsFields_intercalate hb hb' (.cons hpart hparts) (List.cons_ne_nil _ _)
    simpa using Spells.fields ha hdistinct hfields

theorem spellsField_append {style : Style} (hstyle : style.IsRead) (name : String) {v : Value}
    {part : String} (ha : Blank a.toList) (h : SpellsItem limit v part) :
    SpellsField limit (name, v) (style.string name ++ (":" ++ a) ++ part) :=
  ⟨_, a.toList, part.toList, hstyle.name name, ha, h, by simp⟩

theorem blank_empty : Blank "".toList := blank_nil

section Lines

variable {style : Style}

mutual

/-- One line spells its value. -/
theorem spells_line (hstyle : style.IsRead) (v : Value) (hv : v.isJson limit = true) :
    SpellsItem limit v (style.line v) := by
  obtain ⟨b, hb, hcomma⟩ := hstyle.comma
  cases v with
  | list items =>
    have hitems := spells_lineItems hstyle items hv
    have hlist := spells_list blank_empty hb blank_empty hitems
    simp only [String.append_empty] at hlist
    rwa [Style.line, hcomma]
  | object fields =>
    have hboth : (fields.map Prod.fst).Nodup ∧ fieldsJson limit fields = true := by
      simpa [Value.isJson] using hv
    have hfields := spells_lineFields hstyle fields hboth.2
    have hobject := spells_object blank_empty hb blank_empty hboth.1 hfields
    simp only [String.append_empty] at hobject
    rwa [Style.line, hcomma]
  | _ => exact .scalar (hstyle.scalar hv rfl)

theorem spells_lineItems (hstyle : style.IsRead) (items : List Value)
    (hitems : itemsJson limit items = true) :
    List.Forall₂ (SpellsItem limit) items (lineItems style items) := by
  cases items with
  | nil => exact .nil
  | cons v rest =>
    have hboth : v.isJson limit = true ∧ itemsJson limit rest = true := by
      simpa [itemsJson] using hitems
    exact .cons (spells_line hstyle v hboth.1) (spells_lineItems hstyle rest hboth.2)

theorem spells_lineFields (hstyle : style.IsRead) (fields : List (String × Value))
    (hfields : fieldsJson limit fields = true) :
    List.Forall₂ (SpellsField limit) fields (lineFields style fields) := by
  obtain ⟨a, ha, hcolon⟩ := hstyle.colon
  cases fields with
  | nil => exact .nil
  | cons field rest =>
    obtain ⟨name, v⟩ := field
    have hboth : v.isJson limit = true ∧ fieldsJson limit rest = true := by
      simpa [fieldsJson] using hfields
    have hfield := spellsField_append hstyle name ha (spells_line hstyle v hboth.1)
    rw [← hcolon] at hfield
    exact .cons hfield (spells_lineFields hstyle rest hboth.2)

end

end Lines

theorem blank_indentation (level : Nat) : Blank (indentation level).toList := by
  intro c hc
  rw [indentation, String.toList_ofList] at hc
  obtain rfl | hc := List.mem_cons.mp hc
  · rfl
  · rw [(List.mem_replicate.mp hc).2]
    rfl

theorem spells_bracketed_list (level : Nat) (h : List.Forall₂ (SpellsItem limit) items parts) :
    SpellsItem limit (.list items) (bracketed "[" "]" level parts) := by
  unfold bracketed
  split
  · rename_i hempty
    obtain rfl := List.isEmpty_iff.mp hempty
    cases h
    exact .noItems blank_nil
  · have hblank := blank_indentation (level + 1)
    exact spells_list hblank hblank (blank_indentation level) h

theorem spells_bracketed_object (level : Nat) (hdistinct : (fields.map Prod.fst).Nodup)
    (h : List.Forall₂ (SpellsField limit) fields parts) :
    SpellsItem limit (.object fields) (bracketed "\x7b" "\x7d" level parts) := by
  unfold bracketed
  split
  · rename_i hempty
    obtain rfl := List.isEmpty_iff.mp hempty
    cases h
    exact .noFields blank_nil
  · have hblank := blank_indentation (level + 1)
    exact spells_object hblank hblank (blank_indentation level) hdistinct h

mutual

/-- One line for every item or field spells the value, at every level. -/
theorem spells_indentedAt (level : Nat) (v : Value) (hv : v.isJson limit = true) :
    SpellsItem limit v (indentedAt level v) := by
  cases v with
  | list items =>
    exact spells_bracketed_list level (spells_indentedItems (level + 1) items hv)
  | object fields =>
    have hboth : (fields.map Prod.fst).Nodup ∧ fieldsJson limit fields = true := by
      simpa [Value.isJson] using hv
    exact spells_bracketed_object level hboth.1 (spells_indentedFields (level + 1) fields hboth.2)
  | _ => exact .scalar (isRead_compact.scalar hv rfl)

theorem spells_indentedItems (level : Nat) (items : List Value)
    (hitems : itemsJson limit items = true) :
    List.Forall₂ (SpellsItem limit) items (indentedItems level items) := by
  cases items with
  | nil => exact .nil
  | cons v rest =>
    have hboth : v.isJson limit = true ∧ itemsJson limit rest = true := by
      simpa [itemsJson] using hitems
    exact .cons (spells_indentedAt level v hboth.1) (spells_indentedItems level rest hboth.2)

theorem spells_indentedFields (level : Nat) (fields : List (String × Value))
    (hfields : fieldsJson limit fields = true) :
    List.Forall₂ (SpellsField limit) fields (indentedFields level fields) := by
  cases fields with
  | nil => exact .nil
  | cons field rest =>
    obtain ⟨name, v⟩ := field
    have hboth : v.isJson limit = true ∧ fieldsJson limit rest = true := by
      simpa [fieldsJson] using hfields
    have hblank : Blank " ".toList := by decide
    have hfield := spellsField_append isRead_compact name hblank (spells_indentedAt level v hboth.1)
    exact .cons hfield (spells_indentedFields level rest hboth.2)

end

end Writing

section ReadingBack

variable {limit : Option Nat} {v : Value}

/-- A value is read back from its line. -/
theorem readWithin_line (hv : v.isJson limit = true) : readWithin limit (compact.line v) = some v :=
  readWithin_spells (spells_line isRead_compact v hv)

/-- A value is read back from its lines. -/
theorem readWithin_indented (hv : v.isJson limit = true) : readWithin limit (indented v) = some v :=
  readWithin_spells (spells_indentedAt 0 v hv)

/-- A value is read back from its line in ASCII. -/
theorem readWithin_ascii (hv : v.isJson limit = true) : readWithin limit (ascii.line v) = some v :=
  readWithin_spells (spells_line isRead_ascii v hv)

end ReadingBack

end BuildLauncher.Json

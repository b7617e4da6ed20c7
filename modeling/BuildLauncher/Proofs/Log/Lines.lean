import BuildLauncher.Log.Logging
import BuildLauncher.Proofs.Settings.Sources
import BuildLauncher.Proofs.Text.Visible
import BuildLauncher.Proofs.Value.JsonLayouts

/-!
# Lines of a log

A line for programs has no line end in it (`newline_not_mem_jsonLine`) and is read as an object
(`readWithin_jsonLine`). At every name that is not reserved the object has what the event gives there,
or else what every line carries (`get?_lineObject`). A line for people starts with the time, the level,
the event and its logger (`exists_consoleLine`).
-/
namespace BuildLauncher.Log

section Sorting

variable {limit : Option Nat}

theorem insertByName_perm (field : String × Value) (fields : Fields) :
    (insertByName field fields).Perm (field :: fields) := by
  induction fields with
  | nil => exact .refl _
  | cons other rest ih =>
    rw [insertByName]
    split
    · exact .refl _
    · exact (ih.cons other).trans (.swap field other rest)

theorem sortByName_perm (fields : Fields) : (sortByName fields).Perm fields := by
  induction fields with
  | nil => exact .refl _
  | cons field rest ih => exact (insertByName_perm field _).trans (ih.cons field)

/-- A field passes only fields of other names. -/
theorem get?_insertByName (field : String × Value) (fields : Fields) (name : String) :
    Fields.get? (insertByName field fields) name = Fields.get? (field :: fields) name := by
  obtain ⟨key, value⟩ := field
  induction fields with
  | nil => rfl
  | cons other rest ih =>
    obtain ⟨key', value'⟩ := other
    rw [insertByName]
    split
    · rfl
    · rename_i hlater
      have hne : key' ≠ key := fun heq => hlater (heq ▸ String.le_refl _)
      rw [Fields.get?_cons, ih, Fields.get?_cons, Fields.get?_cons, Fields.get?_cons]
      by_cases hname : name = key'
      · simp [hname, hne]
      · simp [hname]

theorem get?_sortByName (fields : Fields) (name : String) :
    Fields.get? (sortByName fields) name = fields.get? name := by
  induction fields with
  | nil => rfl
  | cons field rest ih =>
    rw [sortByName, List.foldr_cons, get?_insertByName, Fields.get?_cons, Fields.get?_cons]
    exact congrArg _ ih

theorem map_fst_toldFields (fields : Fields) :
    (toldFields fields).map Prod.fst = fields.map Prod.fst := by
  induction fields with
  | nil => rfl
  | cons field rest ih => simp [toldFields, ih]

theorem get?_toldFields (fields : Fields) (name : String) :
    Fields.get? (toldFields fields) name = (fields.get? name).map told := by
  induction fields with
  | nil => rfl
  | cons field rest ih =>
    rw [toldFields, Fields.get?_cons, Fields.get?_cons, ih]
    split <;> rfl

theorem mem_toldFields {fields : Fields} {entry : String × Value} :
    entry ∈ toldFields fields ↔ ∃ p ∈ fields, (p.1, told p.2) = entry := by
  induction fields with
  | nil => simp [toldFields]
  | cons field rest ih => simp [toldFields, ih, eq_comm]

/-- Whether JSON can tell an object does not depend on the order of its fields. -/
theorem isJson_told_object {fields : Fields} : (told (.object fields)).isJson limit = true ↔
    (fields.map Prod.fst).Nodup ∧ ∀ p ∈ fields, (told p.2).isJson limit = true := by
  have hperm := sortByName_perm (toldFields fields)
  rw [told, Value.isJson_object, (hperm.map Prod.fst).nodup_iff, map_fst_toldFields]
  refine and_congr_right fun _ => ⟨fun h p hp => ?_, fun h entry hentry => ?_⟩
  · exact h (p.1, told p.2) (hperm.mem_iff.mpr (mem_toldFields.mpr ⟨p, hp, rfl⟩))
  · obtain ⟨p, hp, rfl⟩ := mem_toldFields.mp (hperm.mem_iff.mp hentry)
    exact h p hp

end Sorting

section Objects

variable {l : Logging} {r : Record} {limit : Option Nat} {name : String}

theorem get?_filter (keep : String → Bool) (fields : Fields) (name : String) :
    Fields.get? (fields.filter (keep ·.1)) name =
      if keep name = true then fields.get? name else none := by
  induction fields with
  | nil => simp
  | cons field rest ih =>
    obtain ⟨key, value⟩ := field
    rw [List.filter_cons, Fields.get?_cons]
    by_cases hname : name = key
    · subst hname
      cases hkeep : keep name <;> simp [hkeep, ih, Fields.get?_cons]
    · cases hkeep : keep key <;> simp [hname, ih, Fields.get?_cons]

theorem get?_reverse {fields : Fields} (h : (fields.map Prod.fst).Nodup) (name : String) :
    Fields.get? fields.reverse name = fields.get? name := by
  rw [← Fields.get?_ofPairs, Fields.ofPairs_eq_self h]

/-- The values of an event win over those of every line. -/
theorem get?_lineFields (h : (r.fields.map Prod.fst).Nodup) (name : String) :
    Fields.get? (lineFields l r) name =
      if name ∈ reservedNames then none else (r.fields.get? name).or (l.context.get? name) := by
  rw [lineFields, get?_filter (!reservedNames.contains ·), Fields.foldl_set, get?_reverse h]
  by_cases hname : name ∈ reservedNames <;> simp [hname]

theorem ownNames_subset (timestamp : String) (r : Record) :
    (ownFields timestamp r).map Prod.fst ⊆ reservedNames := by
  have hnames : ["event", "level", "logger", "timestamp"] ⊆ reservedNames := by decide
  exact hnames

/-- The object that a line for programs holds. -/
def lineObject (l : Logging) (timestamp : String) (r : Record) : Fields :=
  sortByName (toldFields (lineFields l r ++ ownFields timestamp r))

theorem get?_lineObject (h : (r.fields.map Prod.fst).Nodup) (timestamp name : String) :
    Fields.get? (lineObject l timestamp r) name =
      if name ∈ reservedNames then (Fields.get? (ownFields timestamp r) name).map told
      else ((r.fields.get? name).or (l.context.get? name)).map told := by
  rw [lineObject, get?_sortByName, get?_toldFields, Fields.get?_append, get?_lineFields h]
  split
  · rfl
  · rename_i hname
    have hown : Fields.get? (ownFields timestamp r) name = none :=
      Fields.get?_eq_none_iff.mpr (mt (@ownNames_subset timestamp r name) hname)
    rw [hown, Option.or_none]

/-- What every line carries gives way to what the event has. -/
theorem get?_lineObject_carried (h : (r.fields.map Prod.fst).Nodup) (timestamp : String)
    (hname : name ∉ reservedNames) {text : String} (hcarried : l.context.get? name = some (.text text)) :
    Fields.get? (lineObject l timestamp r) name =
      some (((r.fields.get? name).map told).getD (.text text)) := by
  rw [get?_lineObject h, if_neg hname, hcarried]
  cases r.fields.get? name <;> rfl

/-- JSON can tell a line if it can tell the values of the event and of every line. -/
theorem isJson_line (hcontext : (told (.object l.context)).isJson limit = true)
    (hfields : (told (.object r.fields)).isJson limit = true) (timestamp : String) :
    (Value.object (lineObject l timestamp r)).isJson limit = true := by
  obtain ⟨hdistinct, hcarried⟩ := isJson_told_object.mp hcontext
  obtain ⟨-, hgiven⟩ := isJson_told_object.mp hfields
  have hown : ((ownFields timestamp r).map Prod.fst).Nodup := by
    have hnames : ["event", "level", "logger", "timestamp"].Nodup := by decide
    exact hnames
  have hdisjoint : ((lineFields l r).map Prod.fst).Disjoint ((ownFields timestamp r).map Prod.fst) := by
    intro name hline hmem
    obtain ⟨p, hp, rfl⟩ := List.mem_map.mp hline
    have hfree := (List.mem_filter.mp hp).2
    have hreserved := ownNames_subset timestamp r hmem
    simp [hreserved] at hfree
  refine isJson_told_object.mpr ⟨?_, List.forall_mem_append.mpr ⟨fun p hp => ?_, ?_⟩⟩
  · have hline := Fields.nodup_foldl_set r.fields hdistinct
    rw [List.map_append]
    exact (hline.sublist (List.filter_sublist.map _)).append hown hdisjoint
  · exact (Fields.mem_foldl_set (List.mem_of_mem_filter hp)).elim (hcarried p) (hgiven p)
  · simp [ownFields, told, Value.isJson]

/-- A line for programs is read as its object. -/
theorem readWithin_jsonLine (hcontext : (told (.object l.context)).isJson limit = true)
    (hfields : (told (.object r.fields)).isJson limit = true) (timestamp : String) :
    Json.readWithin limit (jsonLine l timestamp r) = some (.object (lineObject l timestamp r)) :=
  Json.readWithin_ascii (isJson_line hcontext hfields timestamp)

theorem newline_not_mem_jsonLine (l : Logging) (timestamp : String) (r : Record) :
    '\n' ∉ (jsonLine l timestamp r).toList := fun hmem =>
  absurd (Json.shown_line Json.isPlain_ascii _ _ hmem) (by decide)

end Objects

section Openings

/-- What stands before the event in a line for people. -/
def lead (timestamp : String) (level : Level) : String :=
  (if timestamp = "" then "" else timestamp ++ " ") ++ ("[" ++ padRight 9 level.name ++ "]" ++ " ")

/-- What a line for people starts with. -/
def opening (timestamp : String) (r : Record) : String :=
  lead timestamp r.level ++ (padRight 30 r.event ++ (" " ++ ("[" ++ loggerName r.logger ++ "]")))

theorem exists_intercalate_cons (separator first : String) (rest : List String) :
    ∃ more, separator.intercalate (first :: rest) = first ++ more := by
  by_cases hrest : rest = []
  · exact ⟨"", by simp [hrest]⟩
  · exact ⟨_, (String.intercalate_cons_of_ne_nil hrest).trans String.append_assoc⟩

theorem ne_empty_of_mem {c : Char} {s : String} (h : c ∈ s.toList) : s ≠ "" := by
  rintro rfl
  simp at h

theorem padRight_ne_empty (s : String) : padRight 30 s ≠ "" := by
  intro h
  have hlength : (padRight 30 s).length = s.length + (30 - s.length) := by simp [padRight]
  rw [h, String.length_empty] at hlength
  omega

/-- The parts of a line for people: the time and the level, the event and its logger. -/
theorem exists_intercalate_parts (timestamp : String) (r : Record) (others : List String) : ∃ more,
    " ".intercalate ((timestamp :: ("[" ++ padRight 9 r.level.name ++ "]") :: padRight 30 r.event ::
      ("[" ++ loggerName r.logger ++ "]") :: others).filter (· ≠ "")) = opening timestamp r ++ more := by
  have hbracket (s : String) : "[" ++ s ++ "]" ≠ "" := ne_empty_of_mem (c := '[') (by simp)
  have hlevel := hbracket (padRight 9 r.level.name)
  have hlogger := hbracket (loggerName r.logger)
  have hevent := padRight_ne_empty r.event
  rw [List.filter_cons, List.filter_cons_of_pos (by simp [hlevel]),
    List.filter_cons_of_pos (by simp [hevent]), List.filter_cons_of_pos (by simp [hlogger])]
  obtain ⟨more, hmore⟩ := exists_intercalate_cons " " ("[" ++ loggerName r.logger ++ "]")
    (others.filter (· ≠ ""))
  refine ⟨more, ?_⟩
  have hne {first : String} {rest : List String} : first :: rest ≠ [] := List.cons_ne_nil _ _
  by_cases htime : timestamp = ""
  · rw [if_neg (by simp [htime]), String.intercalate_cons_of_ne_nil hne,
      String.intercalate_cons_of_ne_nil hne, hmore, opening, lead, if_pos htime, String.empty_append]
    simp only [String.append_assoc]
  · rw [if_pos (by simp [htime]), String.intercalate_cons_of_ne_nil hne,
      String.intercalate_cons_of_ne_nil hne, String.intercalate_cons_of_ne_nil hne, hmore, opening, lead,
      if_neg htime]
    simp only [String.append_assoc]

/-- A line for people tells the time, the level, the event and its logger first. -/
theorem exists_consoleLine (l : Logging) (timestamp : String) (r : Record) :
    ∃ rest, consoleLine l timestamp r = opening timestamp r ++ rest := by
  simp only [consoleLine, List.cons_append, List.nil_append]
  obtain ⟨more, hmore⟩ := exists_intercalate_parts timestamp r _
  rw [hmore]
  -- The bracket behind the logger stays when blanks are dropped from the end.
  have hopening : (opening timestamp r ++ more).toList =
      (lead timestamp r.level ++ padRight 30 r.event ++ " [" ++ loggerName r.logger).toList ++
        ']' :: more.toList := by
    simp [opening]
  have hkept := Text.dropEndWhile_append_cons (p := (· = ' ')) (c := ']') (by decide)
    (lead timestamp r.level ++ padRight 30 r.event ++ " [" ++ loggerName r.logger).toList more.toList
  rw [hopening, hkept]
  refine ⟨String.ofList (Text.dropEndWhile (· = ' ') more.toList) ++ traces (lineFields l r), ?_⟩
  rw [← String.toList_inj]
  simp [opening]

end Openings

end BuildLauncher.Log

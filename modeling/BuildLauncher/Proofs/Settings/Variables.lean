import BuildLauncher.Proofs.Settings.Merging
import BuildLauncher.Proofs.Text.LowerCase
import BuildLauncher.Settings.Environment

/-!
# What the environment gives

A variable counts by its name in lower case and if it is not empty; of several the last one counts.
Keys of sections have variables of their own.
-/
namespace BuildLauncher.Environment

/-- The value of the last variable that is not empty and has a name, in any case of letters. -/
def value? (env : Environment) (name : String) : Option String :=
  ((env.filter (·.2 ≠ "")).reverse.find? (Text.lower ·.1 = name)).map Prod.snd

section Folding

theorem lookup_entry (key value : String) (rest : Environment) (name : String) :
    List.lookup name ((key, value) :: rest) =
      if name = key then some value else rest.lookup name := by
  by_cases h : name = key
  · simp [h]
  · simp [List.lookup_cons, h, beq_eq_false_iff_ne.mpr h]

theorem get?_eq_some_iff {env : Environment} (h : (env.map Prod.fst).Nodup) {name value : String} :
    env.get? name = some value ↔ (name, value) ∈ env := by
  induction env with
  | nil => simp [get?]
  | cons entry rest ih =>
    obtain ⟨key, text⟩ := entry
    obtain ⟨hkey, hrest⟩ := List.nodup_cons.mp h
    rw [get?, lookup_entry, List.mem_cons, Prod.mk.injEq, ← ih hrest]
    split
    · rename_i heq
      subst heq
      have hnone : get? rest name ≠ some value := fun hvalue =>
        hkey (List.mem_map.mpr ⟨_, (ih hrest).mp hvalue, rfl⟩)
      simp only [Option.some.injEq, true_and, hnone, or_false, eq_comm]
    · rename_i hne
      simp only [hne, false_and, false_or, get?]

theorem lookup_replace (env : Environment) (key value name : String) :
    (env.map fun old => if old.1 = key then (key, value) else old).lookup name =
      if name = key then (env.lookup key).map fun _ => value else env.lookup name := by
  induction env with
  | nil => simp
  | cons old rest ih =>
    obtain ⟨other, before⟩ := old
    rw [List.map_cons, lookup_entry]
    by_cases ho : other = key
    · subst ho
      rw [if_pos rfl, lookup_entry, lookup_entry, ih]
      by_cases hn : name = other <;> simp [hn]
    · rw [if_neg ho, lookup_entry, lookup_entry, ih]
      by_cases hn : name = key
      · subst hn
        simp [Ne.symm ho]
      · simp [hn]

theorem lookup_set (env : Environment) (entry : String × String) (name : String) :
    (folded.set env entry).lookup name =
      if name = entry.1 then some entry.2 else env.lookup name := by
  obtain ⟨key, value⟩ := entry
  unfold folded.set
  split
  · rename_i hsome
    rw [lookup_replace]
    split
    · obtain ⟨old, hold⟩ := Option.isSome_iff_exists.mp hsome
      rw [hold, Option.map_some]
    · rfl
  · rename_i hnone
    rw [List.lookup_append]
    split
    · rename_i hn
      subst hn
      simp [Option.not_isSome_iff_eq_none.mp hnone]
    · rename_i hn
      rw [lookup_entry, if_neg hn, List.lookup_nil, Option.or_none]

theorem lookup_foldl_set (pairs env : Environment) (name : String) :
    (pairs.foldl folded.set env).lookup name =
      ((pairs.reverse.find? (·.1 = name)).map Prod.snd).or (env.lookup name) := by
  induction pairs generalizing env with
  | nil => rfl
  | cons entry rest ih =>
    rw [List.foldl_cons, ih, lookup_set, List.reverse_cons, List.find?_append, Option.map_or,
      Option.or_assoc]
    by_cases h : name = entry.1
    · simp [h]
    · simp [h, Ne.symm h]

theorem get?_folded (env : Environment) (name : String) :
    env.folded.get? name = env.value? name := by
  rw [get?, folded, lookup_foldl_set, ← List.map_reverse, List.find?_map, Option.map_map]
  simp only [List.lookup_nil, Option.or_none]
  rfl

theorem map_fst_set (env : Environment) (entry : String × String) :
    (folded.set env entry).map Prod.fst = env.map Prod.fst ∨
      (folded.set env entry).map Prod.fst = env.map Prod.fst ++ [entry.1] ∧
        entry.1 ∉ env.map Prod.fst := by
  unfold folded.set
  split
  · left
    rw [List.map_map]
    refine List.map_congr_left fun old _ => ?_
    by_cases h : old.1 = entry.1 <;> simp [h]
  · rename_i hnone
    refine .inr ⟨List.map_append, fun hmem => ?_⟩
    obtain ⟨old, hold, hkey⟩ := List.mem_map.mp hmem
    have := List.lookup_eq_none_iff.mp (Option.not_isSome_iff_eq_none.mp hnone) old hold
    simp [hkey] at this

theorem nodup_folded (env : Environment) : (env.folded.map Prod.fst).Nodup := by
  have hfold (pairs start : Environment) (h : (start.map Prod.fst).Nodup) :
      ((pairs.foldl folded.set start).map Prod.fst).Nodup := by
    induction pairs generalizing start with
    | nil => exact h
    | cons entry rest ih =>
      refine ih _ ?_
      rcases map_fst_set start entry with hset | ⟨hset, hnew⟩
      · rwa [hset]
      · rw [hset]
        exact h.append (List.nodup_singleton _) (List.disjoint_singleton.mpr hnew)
  exact hfold _ _ List.nodup_nil

theorem lower_of_mem_folded {env : Environment} {name : String}
    (h : name ∈ env.folded.map Prod.fst) : ∃ spelled, name = Text.lower spelled := by
  have hfold (pairs start : Environment)
      (hmem : name ∈ (pairs.foldl folded.set start).map Prod.fst) :
      name ∈ start.map Prod.fst ∨ name ∈ pairs.map Prod.fst := by
    induction pairs generalizing start with
    | nil => exact .inl hmem
    | cons entry rest ih =>
      rcases ih _ hmem with hstart | hrest
      · rcases map_fst_set start entry with hset | ⟨hset, -⟩
        · exact .inl (hset ▸ hstart)
        · rw [hset, List.mem_append, List.mem_singleton] at hstart
          exact hstart.imp_right fun heq => List.mem_cons.mpr (.inl heq)
      · exact .inr (List.mem_cons_of_mem _ hrest)
  rcases hfold _ _ h with hnil | hpairs
  · simp at hnil
  · rw [List.map_map, List.mem_map] at hpairs
    obtain ⟨entry, -, hentry⟩ := hpairs
    exact ⟨entry.1, hentry.symm⟩

theorem not_isCapital_of_mem_folded {env : Environment} {name : String}
    (h : name ∈ env.folded.map Prod.fst) : ∀ c ∈ name.toList, ¬Text.IsCapital c := by
  obtain ⟨spelled, rfl⟩ := lower_of_mem_folded h
  intro c hc
  rw [Text.lower, String.toList_ofList] at hc
  exact Text.not_isCapital_of_mem_lowerFrom hc

end Folding

section Names

theorem splitNested_ne_nil (s : List Char) : splitNested s ≠ [] := by
  fun_cases splitNested s <;> simp_all

theorem mem_of_mem_splitNested {s part : List Char} (h : part ∈ splitNested s) :
    ∀ c ∈ part, c ∈ s := by
  fun_induction splitNested s generalizing part <;> grind

theorem eq_of_splitNested_eq {s part : List Char} (h : splitNested s = [part]) : s = part := by
  fun_induction splitNested s generalizing part with
  | case1 => simpa using h
  | case2 rest ih => exact absurd (List.cons.inj h).2 (splitNested_ne_nil rest)
  | case3 c rest hc hnil ih => exact absurd hnil (splitNested_ne_nil rest)
  | case4 c rest hc p parts hp ih =>
    obtain ⟨rfl, rfl⟩ := List.cons.inj h
    rw [ih hp]

/-- A key that variables can name: plain, not split, and not the other name of a list. -/
structure IsKey (lists : List String) (key : String) : Prop where
  plain : ∀ c ∈ key.toList, Text.IsPlain c
  whole : splitNested key.toList = [key.toList]
  unprefixed : ∀ l ∈ lists, key ≠ variableStart ++ l

instance (lists : List String) (key : String) : Decidable (IsKey lists key) :=
  -- by the characters of the key, not by all there are
  letI := List.decidableBAll Text.IsPlain key.toList
  decidable_of_iff (_ ∧ _ ∧ _)
    ⟨fun h => ⟨h.1, h.2.1, h.2.2⟩, fun h => ⟨h.plain, h.whole, h.unprefixed⟩⟩

/-- The variable of a key in a section. -/
def keyVariable (area key : String) : String := variableStart ++ area ++ "__" ++ key

theorem namesIn?_eq_singleton {area name key : String} (h : namesIn? area name = some [key]) :
    name = keyVariable area key := by
  simp only [namesIn?] at h
  split at h
  · rename_i hstart
    obtain ⟨rest, hrest⟩ := List.isPrefixOf_iff_prefix.mp hstart
    rw [← hrest, List.drop_left] at h
    obtain ⟨part, hpart, rfl⟩ := List.map_eq_singleton_iff.mp (Option.some.inj h)
    rw [← eq_of_splitNested_eq hpart, ← String.toList_inj, ← hrest]
    simp [keyVariable]
  · contradiction

theorem namesIn?_keyVariable {key : String} (hkey : splitNested key.toList = [key.toList])
    (area : String) : namesIn? area (keyVariable area key) = some [key] := by
  have htoList : (keyVariable area key).toList =
      (variableStart ++ area ++ "__").toList ++ key.toList := by simp [keyVariable]
  have hprefix : (variableStart ++ area ++ "__").toList.isPrefixOf (keyVariable area key).toList :=
    List.isPrefixOf_iff_prefix.mpr ⟨_, htoList.symm⟩
  simp only [namesIn?]
  rw [if_pos hprefix, htoList, List.drop_left, hkey]
  simp

theorem namesIn?_ne_nil {area name : String} {names : List String}
    (h : namesIn? area name = some names) : names ≠ [] := by
  simp only [namesIn?] at h
  split at h
  · rintro rfl
    exact splitNested_ne_nil _ (List.map_eq_nil_iff.mp (Option.some.inj h))
  · contradiction

/-- The names in a variable are spelled with its characters. -/
theorem mem_of_mem_namesIn? {area name part : String} {names : List String}
    (h : namesIn? area name = some names) (hpart : part ∈ names) :
    ∀ c ∈ part.toList, c ∈ name.toList := by
  simp only [namesIn?] at h
  split at h
  · obtain rfl := Option.some.inj h
    obtain ⟨letters, hletters, rfl⟩ := List.mem_map.mp hpart
    intro c hc
    rw [String.toList_ofList] at hc
    exact List.mem_of_mem_drop (mem_of_mem_splitNested hletters c hc)
  · contradiction

end Names

section Keys

/-- The value that a text gives a key. A key of `lists` is written in JSON. -/
def readKey? (lists : List String) (key text : String) : Option Value :=
  if key ∈ lists then Json.read? text else some (.text text)

variable {lists : List String} {key : String} {fields after : Fields}

theorem setNested_singleton (hkey : IsKey lists key) (fields : Fields) (text : String) :
    setNested lists fields [key] text = (readKey? lists key text).map (fields.set key) := by
  have hany : (lists.any fun l => key = l || key = variableStart ++ l) = decide (key ∈ lists) := by
    rw [Bool.eq_iff_iff]
    simp only [List.any_eq_true, Bool.or_eq_true, decide_eq_true_eq]
    constructor
    · rintro ⟨l, hl, rfl | heq⟩
      · exact hl
      · exact absurd heq (hkey.unprefixed l hl)
    · exact fun hmem => ⟨key, hmem, .inl rfl⟩
  simp only [setNested, List.getLast?_singleton, List.length_singleton, decide_true, Bool.true_and,
    hany, decide_eq_true_eq, readKey?]
  split <;> rfl

/-- Setting a value below names changes the first of them only, and makes an object of it unless it is
the last as well. -/
theorem setBelow_cases (fields : Fields) (names : List String) (last : String) (value : Value) :
    names = [] ∧ setBelow fields names last value = fields.set last value ∨
      ∃ name rest, names = name :: rest ∧
        (setBelow fields names last value = fields ∨
          ∃ own, setBelow fields names last value = fields.set name (.object own)) := by
  cases names with
  | nil => exact .inl ⟨rfl, rfl⟩
  | cons name rest =>
    refine .inr ⟨name, rest, rfl, ?_⟩
    simp only [setBelow]
    split
    · exact .inr ⟨_, rfl⟩
    · exact .inr ⟨_, rfl⟩
    · exact .inl rfl

/-- The fields after setting below names: those before, or one of them set under the first name. -/
theorem setNested_cases {names : List String} {text : String} (hnames : names ≠ [])
    (h : setNested lists fields names text = some after) :
    after = fields ∨ ∃ name rest value, names = name :: rest ∧ after = fields.set name value ∧
      (rest = [] ∨ ∃ own, value = .object own) := by
  simp only [setNested, List.getLast?_eq_some_getLast hnames] at h
  obtain ⟨value, -, rfl⟩ := Option.map_eq_some_iff.mp h
  have hsplit := List.dropLast_append_getLast hnames
  rcases setBelow_cases fields names.dropLast (names.getLast hnames) value with
    ⟨hnil, hset⟩ | ⟨name, rest, hcons, hset | ⟨own, hset⟩⟩
  · rw [hnil, List.nil_append] at hsplit
    exact .inr ⟨_, [], value, hsplit.symm, hset, .inl rfl⟩
  · exact .inl hset
  · rw [hcons, List.cons_append] at hsplit
    exact .inr ⟨name, _, _, hsplit.symm, hset, .inr ⟨own, rfl⟩⟩

theorem get?_setNested_other {names : List String} {text : String} (hnames : names ≠ [])
    (hother : names ≠ [key]) (h : setNested lists fields names text = some after) :
    OrObject (fields.get? key) (after.get? key) := by
  rcases setNested_cases hnames h with rfl | ⟨name, rest, value, rfl, rfl, hvalue⟩
  · exact .refl _
  · rw [Fields.get?_set]
    split
    · rename_i heq
      subst heq
      rcases hvalue with rfl | ⟨own, rfl⟩
      · contradiction
      · exact .object _ own
    · exact .refl _

/-- A key has the value that its own variable gives it, unless other variables make an object of it. -/
theorem orObject_foldlM_setVariable (hkey : IsKey lists key) {area : String} {env : Environment}
    (hnodup : (env.map Prod.fst).Nodup)
    (h : env.foldlM (setVariable area lists) fields = some after) :
    OrObject (((env.get? (keyVariable area key)).bind (readKey? lists key)).or (fields.get? key))
      (after.get? key) := by
  induction env generalizing fields with
  | nil =>
    obtain rfl := Option.some.inj h
    exact .refl _
  | cons entry rest ih =>
    obtain ⟨name, text⟩ := entry
    obtain ⟨hname, hrest⟩ := List.nodup_cons.mp hnodup
    rw [List.foldlM_cons, Option.bind_eq_bind, Option.bind_eq_some_iff] at h
    obtain ⟨next, hnext, h⟩ := h
    have hafter := ih hrest h
    simp only [get?, lookup_entry] at hafter ⊢
    by_cases hown : keyVariable area key = name
    · subst hown
      have hnone : rest.lookup (keyVariable area key) = none :=
        List.lookup_eq_none_iff.mpr fun p hp => bne_iff_ne.mpr fun heq =>
          hname (List.mem_map.mpr ⟨p, hp, heq.symm⟩)
      simp only [setVariable, namesIn?_keyVariable hkey.whole, setNested_singleton hkey] at hnext
      obtain ⟨value, hvalue, rfl⟩ := Option.map_eq_some_iff.mp hnext
      simpa [hnone, hvalue] using hafter
    · rw [if_neg hown]
      -- Any other variable at most makes an object of the key.
      have hstep : OrObject (fields.get? key) (next.get? key) := by
        simp only [setVariable] at hnext
        split at hnext
        · rename_i names hnames
          refine get?_setNested_other (namesIn?_ne_nil hnames) ?_ hnext
          rintro rfl
          exact hown (namesIn?_eq_singleton hnames).symm
        · exact Option.some.inj hnext ▸ .refl _
      exact (hstep.or_right _).trans hafter

theorem orObject_nested (hkey : IsKey lists key) {area : String} {env : Environment}
    (hnodup : (env.map Prod.fst).Nodup) (h : nested env area lists = some after) :
    OrObject ((env.get? (keyVariable area key)).bind (readKey? lists key)) (after.get? key) := by
  simpa using orObject_foldlM_setVariable hkey hnodup h

/-- Fields as variables make them: their names are distinct and hold no capitals. -/
structure Variables (fields : Fields) : Prop where
  nodup : (fields.map Prod.fst).Nodup
  spelled : ∀ name ∈ fields.map Prod.fst, ∀ c ∈ name.toList, ¬Text.IsCapital c

theorem Variables.nil : Variables [] := ⟨List.nodup_nil, by simp⟩

theorem Variables.set (h : Variables fields) {name : String}
    (hname : ∀ c ∈ name.toList, ¬Text.IsCapital c) (value : Value) :
    Variables (fields.set name value) where
  nodup := Fields.nodup_set h.nodup name value
  spelled other hother := by
    rw [Fields.map_fst_set] at hother
    split at hother
    · exact h.spelled other hother
    · rcases List.mem_append.mp hother with hold | hnew
      · exact h.spelled other hold
      · exact List.mem_singleton.mp hnew ▸ hname

theorem Variables.setVariable (h : Variables fields) {area : String} {entry : String × String}
    (hentry : ∀ c ∈ entry.1.toList, ¬Text.IsCapital c)
    (hafter : setVariable area lists fields entry = some after) : Variables after := by
  simp only [Environment.setVariable] at hafter
  split at hafter
  · rename_i names hnames
    rcases setNested_cases (namesIn?_ne_nil hnames) hafter with rfl | ⟨name, rest, value, rfl, rfl, -⟩
    · exact h
    · exact h.set (fun c hc =>
        hentry c (mem_of_mem_namesIn? hnames List.mem_cons_self c hc)) value
  · exact Option.some.inj hafter ▸ h

theorem variables_nested {env : Environment} {area : String}
    (h : nested env.folded area lists = some after) : Variables after := by
  have hfold (entries : Environment) (hentries : ∀ entry ∈ entries, entry ∈ env.folded)
      (start : Fields) (hstart : Variables start)
      (h : entries.foldlM (Environment.setVariable area lists) start = some after) :
      Variables after := by
    induction entries generalizing start with
    | nil => exact Option.some.inj h ▸ hstart
    | cons entry rest ih =>
      rw [List.foldlM_cons, Option.bind_eq_bind, Option.bind_eq_some_iff] at h
      obtain ⟨next, hnext, h⟩ := h
      have hentry : entry.1 ∈ env.folded.map Prod.fst :=
        List.mem_map_of_mem (hentries entry List.mem_cons_self)
      exact ih (fun e he => hentries e (List.mem_cons_of_mem entry he)) next
        (hstart.setVariable (not_isCapital_of_mem_folded hentry) hnext) h
  exact hfold env.folded (fun _ h => h) [] .nil h

end Keys

end BuildLauncher.Environment

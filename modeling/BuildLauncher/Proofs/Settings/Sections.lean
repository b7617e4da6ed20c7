import BuildLauncher.Proofs.Settings.Variables

/-!
# Sections of the environment

A key of a section has the value of its own variable, put into the section's object in the place of
the key, or what that object gives. A section cannot be read if one of its variables should hold JSON
and holds none.
-/
namespace BuildLauncher.Environment

section Spelling

/-- The last value of a name in any case of letters. -/
def spelled? (fields : Fields) (name : String) : Option Value :=
  (fields.reverse.find? (Text.lower ·.1 = Text.lower name)).map Prod.snd

theorem spelled?_cons (entry : String × Value) (rest : Fields) (name : String) :
    spelled? (entry :: rest) name =
      (spelled? rest name).or
        (if Text.lower entry.1 = Text.lower name then some entry.2 else none) := by
  simp only [spelled?, List.reverse_cons, List.find?_append, Option.map_or, List.find?_singleton,
    decide_eq_true_eq]
  split <;> rfl

/-- Known keys are told apart without regard to case. -/
def Distinguished (known : List String) : Prop :=
  ∀ a ∈ known, ∀ b ∈ known, Text.lower a = Text.lower b → a = b

/-- A name stands for the known one that it spells. -/
theorem getD_find?_eq_iff {known : List String} (hknown : Distinguished known) {key : String}
    (hkey : key ∈ known) (name : String) :
    (known.find? (Text.lower · = Text.lower name)).getD name = key ↔
      Text.lower name = Text.lower key := by
  cases hfind : known.find? (Text.lower · = Text.lower name) with
  | none =>
    rw [Option.getD_none]
    refine ⟨fun h => h ▸ rfl, fun h => ?_⟩
    have := List.find?_eq_none.mp hfind key hkey
    simp [h] at this
  | some found =>
    have hfound : Text.lower found = Text.lower name := by simpa using List.find?_some hfind
    rw [Option.getD_some, ← hfound]
    exact ⟨fun h => h ▸ rfl, hknown found (List.mem_of_find?_eq_some hfind) key hkey⟩

theorem get?_knownNames {known : List String} (hknown : Distinguished known) {key : String}
    (hkey : key ∈ known) (fields : Fields) :
    (knownNames known fields).get? key = spelled? fields key := by
  rw [knownNames, Fields.get?_ofPairs, Fields.get?_eq_find?, ← List.map_reverse, List.find?_map,
    Option.map_map, spelled?]
  simp only [Function.comp_def, getD_find?_eq_iff hknown hkey]

/-- Does another spelling stand after the name itself? -/
def hasLaterSpelling (fields : Fields) (name : String) : Bool :=
  match fields with
  | [] => false
  | (key, _) :: rest =>
    if key = name then (spelled? rest name).isSome else hasLaterSpelling rest name

/-- A value set at a name is found unless a later spelling hides it. -/
theorem spelled?_set (fields : Fields) (name : String) (value : Value) :
    spelled? (fields.set name value) name =
      if hasLaterSpelling fields name then spelled? fields name else some value := by
  induction fields with
  | nil => simp [Fields.set, hasLaterSpelling, spelled?]
  | cons entry rest ih =>
    obtain ⟨key, old⟩ := entry
    by_cases h : key = name
    · subst h
      simp only [Fields.set, if_true, hasLaterSpelling, spelled?_cons]
      cases spelled? rest key <;> simp
    · simp only [Fields.set, if_neg h, hasLaterSpelling, spelled?_cons, ih]
      split
      · rfl
      · simp

theorem spelled?_set_of_ne {fields : Fields} {key name : String}
    (h : Text.lower key ≠ Text.lower name) (value : Value) :
    spelled? (fields.set key value) name = spelled? fields name := by
  induction fields with
  | nil => simp [Fields.set, spelled?, h]
  | cons entry rest ih =>
    obtain ⟨other, old⟩ := entry
    by_cases hk : other = key
    · subst hk
      simp [Fields.set, spelled?_cons, h]
    · simp [Fields.set, hk, spelled?_cons, ih]

theorem hasLaterSpelling_set_of_ne {fields : Fields} {key name : String}
    (h : Text.lower key ≠ Text.lower name) (value : Value) :
    hasLaterSpelling (fields.set key value) name = hasLaterSpelling fields name := by
  have hne : key ≠ name := fun heq => h (heq ▸ rfl)
  induction fields with
  | nil => simp [Fields.set, hasLaterSpelling, hne]
  | cons entry rest ih =>
    obtain ⟨other, old⟩ := entry
    by_cases hk : other = key
    · subst hk
      simp [Fields.set, hasLaterSpelling, hne]
    · simp only [Fields.set, if_neg hk, hasLaterSpelling, ih, spelled?_set_of_ne h]

variable {own : Fields} {name : String}

theorem Variables.eq_of_lower_eq (h : Variables own) (hplain : ∀ c ∈ name.toList, Text.IsPlain c) :
    ∀ key ∈ own.map Prod.fst, Text.lower key = Text.lower name → key = name :=
  fun key hkey => (Text.lower_eq_lower_iff (h.spelled key hkey) hplain).mp

/-- Where a name has no other spelling it has its own value. -/
theorem spelled?_eq_get? (hnodup : (own.map Prod.fst).Nodup)
    (hown : ∀ key ∈ own.map Prod.fst, Text.lower key = Text.lower name → key = name) :
    spelled? own name = own.get? name := by
  induction own with
  | nil => rfl
  | cons entry rest ih =>
    obtain ⟨key, value⟩ := entry
    obtain ⟨hkey, hrest⟩ := List.nodup_cons.mp hnodup
    rw [spelled?_cons, ih hrest fun k hk => hown k (List.mem_cons_of_mem key hk), Fields.get?_cons]
    by_cases h : name = key
    · subst h
      simp [Fields.get?_eq_none_iff.mpr hkey]
    · have hlower : Text.lower key ≠ Text.lower name := fun heq =>
        h (hown key List.mem_cons_self heq).symm
      rw [if_neg hlower, if_neg h, Option.or_none]

/-- After a merge a name has what the newer fields give it, put in its place among the older ones. -/
theorem spelled?_mergeFields (hnodup : (own.map Prod.fst).Nodup)
    (hown : ∀ key ∈ own.map Prod.fst, Text.lower key = Text.lower name → key = name)
    (older : Fields) :
    spelled? (mergeFields older own) name =
      spelled? ((own.get? name).elim older fun value =>
        older.set name (mergeValue (older.get? name) value)) name := by
  induction own generalizing older with
  | nil => rfl
  | cons entry rest ih =>
    obtain ⟨key, value⟩ := entry
    obtain ⟨hkey, hrest⟩ := List.nodup_cons.mp hnodup
    rw [mergeFields, ih hrest fun k hk => hown k (List.mem_cons_of_mem key hk), Fields.get?_cons]
    by_cases h : name = key
    · subst h
      simp [Fields.get?_eq_none_iff.mpr hkey]
    · have hlower : Text.lower key ≠ Text.lower name := fun heq =>
        h (hown key List.mem_cons_self heq).symm
      rw [if_neg h]
      cases Fields.get? rest name with
      | none => exact spelled?_set_of_ne hlower _
      | some v =>
        simp only [Option.elim_some, spelled?_set, Fields.get?_set, if_neg h,
          hasLaterSpelling_set_of_ne hlower, spelled?_set_of_ne hlower]

/-- The same where other variables may have made an object of the name. -/
theorem orObject_spelled?_mergeFields (hvariables : Variables own)
    (hplain : ∀ c ∈ name.toList, Text.IsPlain c) {given : Option Value}
    (hgiven : OrObject given (own.get? name)) (older : Fields) :
    OrObject (spelled? (given.elim older (older.set name)) name)
      (spelled? (mergeFields older own) name) := by
  rw [spelled?_mergeFields hvariables.nodup (hvariables.eq_of_lower_eq hplain)]
  have hobject (value : Option Value) (fields : Fields) :
      OrObject (spelled? (value.elim older (older.set name)) name)
        (spelled? (older.set name (.object fields)) name) := by
    rw [spelled?_set]
    split
    · cases value with
      | none => exact .refl _
      | some v =>
        rename_i hlater
        rw [Option.elim_some, spelled?_set, if_pos hlater]
        exact .refl _
    · exact .object _ fields
  rcases hgiven with heq | ⟨fields, heq⟩
  · rw [heq]
    cases given with
    | none => exact .refl _
    | some v =>
      rcases mergeValue_cases (older.get? name) v with hmerged | ⟨merged, hmerged⟩
      · simp only [Option.elim_some, hmerged]
        exact .refl _
      · simpa only [Option.elim_some, hmerged] using hobject (some v) merged
  · obtain ⟨merged, hmerged⟩ := mergeValue_object (older.get? name) fields
    simpa only [heq, Option.elim_some, hmerged] using hobject given merged

end Spelling

section Sections

/-- What the environment gives for a key of a section. The key's own variable is put into the object
of the section in the key's place, and of all spellings of the key the last one counts. A section
that is null has no keys at all. -/
def inSection? (env : Environment) (area : String) (lists : List String) (key : String) :
    Option Value :=
  let own := (env.value? (keyVariable area key)).bind (readKey? lists key)
  match (env.value? (variableStart ++ area)).map Json.read? with
  | none => own
  | some (some (.object fields)) => spelled? (own.elim fields (Fields.set fields key)) key
  | some _ => none

/-- The variable of a section holds an object or null, if there is one. -/
def HoldsObject (env : Environment) (area : String) : Prop :=
  ∀ text, env.value? (variableStart ++ area) = some text →
    Json.read? text = some .null ∨ ∃ fields, Json.read? text = some (.object fields)

instance (env : Environment) (area : String) : Decidable (env.HoldsObject area) :=
  decidable_of_iff
    (∀ text ∈ env.value? (variableStart ++ area), (Json.read? text).any fun v =>
      match v with
      | .null | .object _ => true
      | _ => false)
    (forall₂_congr fun text _ => by
      rcases Json.read? text with _ | v
      · simp
      · cases v <;> simp)

variable {env : Environment} {area : String} {known lists : List String} {found : Option Value}

theorem isSection_nameKeys (known : List String) (fields : Fields) :
    IsSection (some (nameKeys known (.object fields))) := by
  rintro v hv
  obtain rfl := Option.some.inj hv
  exact ⟨_, rfl, Fields.nodup_ofPairs _⟩

theorem within_nameKeys (hknown : Distinguished known) {key : String} (hkey : key ∈ known)
    (fields : Fields) :
    within (some (nameKeys known (.object fields))) key = spelled? fields key :=
  get?_knownNames hknown hkey fields

/-- A section has at each key what the environment gives for it. -/
theorem section?_ok (harea : env.HoldsObject area)
    (h : env.folded.section? area known lists = .ok found) :
    IsSection found ∧ (Distinguished known → ∀ key ∈ known, IsKey lists key →
      OrObject (env.inSection? area lists key) (within found key)) := by
  have hown {own : Fields} (hnested : nested env.folded area lists = some own) {key : String}
      (hkey : IsKey lists key) :
      OrObject ((env.value? (keyVariable area key)).bind (readKey? lists key)) (own.get? key) := by
    simpa only [get?_folded] using orObject_nested hkey env.nodup_folded hnested
  simp only [section?, get?_folded] at h
  cases hv : env.value? (variableStart ++ area) with
  | none =>
    simp only [inSection?, hv, Option.map_none] at h ⊢
    cases hnested : nested env.folded area lists with
    | none => simp [hnested] at h
    | some own =>
      simp only [hnested, Option.map_some, Except.ok.injEq] at h
      have hvariables := variables_nested hnested
      subst h
      cases own with
      | nil => exact ⟨by simp [IsSection], fun _ key _ hkey => hown hnested hkey⟩
      | cons entry rest =>
        refine ⟨isSection_nameKeys known _, fun hknown key hmem hkey => ?_⟩
        rw [List.isEmpty_cons, if_neg Bool.false_ne_true, Option.map_some,
          within_nameKeys hknown hmem,
          spelled?_eq_get? hvariables.nodup (hvariables.eq_of_lower_eq hkey.plain)]
        exact hown hnested hkey
  | some text =>
    simp only [inSection?, hv, Option.map_some] at h ⊢
    rcases harea text hv with hnull | ⟨fields, hobject⟩
    · simp only [hnull, Except.ok.injEq] at h ⊢
      subst h
      exact ⟨by simp [IsSection], fun _ _ _ _ => .refl _⟩
    · simp only [hobject] at h ⊢
      cases hnested : nested env.folded area lists with
      | none => simp [hnested] at h
      | some own =>
        simp only [hnested, Option.map_some, Except.ok.injEq] at h
        subst h
        refine ⟨isSection_nameKeys known _, fun hknown key hmem hkey => ?_⟩
        rw [within_nameKeys hknown hmem]
        exact orObject_spelled?_mergeFields (variables_nested hnested) hkey.plain
          (hown hnested hkey) fields

/-- Where a key is a list, its variable counts under two names. -/
def listKeys (lists : List String) : List String := lists.flatMap fun l => [l, variableStart ++ l]

/-- The variable of a section holds no JSON, or one of its lists has a variable that holds none. Where
a section is neither an object nor absent, the variables of its keys do not count. -/
def Unreadable (env : Environment) (area : String) (lists : List String) : Prop :=
  match (env.value? (variableStart ++ area)).map Json.read? with
  | some none => True
  | none | some (some (.object _)) => ∃ key ∈ listKeys lists, ∃ text,
      env.value? (keyVariable area key) = some text ∧ Json.read? text = none
  | some (some _) => False

theorem setNested_eq_none {fields : Fields} {names : List String} {text : String} :
    setNested lists fields names text = none ↔
      (∃ key ∈ listKeys lists, names = [key]) ∧ Json.read? text = none := by
  cases names with
  | nil => simp [setNested]
  | cons name rest =>
    cases rest with
    | cons second more =>
      obtain ⟨last, hlast⟩ := Option.isSome_iff_exists.mp
        (List.getLast?_isSome.mpr (List.cons_ne_nil name (second :: more)))
      simp [setNested, hlast]
    | nil =>
      simp only [setNested, List.getLast?_singleton, Option.map_eq_none_iff, listKeys,
        List.mem_flatMap]
      split <;> simp_all

/-- A variable spoils its section if it is that of a list and holds no JSON. -/
theorem setVariable_eq_none
    (hwhole : ∀ key ∈ listKeys lists, splitNested key.toList = [key.toList]) (fields : Fields)
    (entry : String × String) :
    setVariable area lists fields entry = none ↔
      (∃ key ∈ listKeys lists, entry.1 = keyVariable area key) ∧ Json.read? entry.2 = none := by
  have hnames {key : String} (hkey : key ∈ listKeys lists) :
      entry.1 = keyVariable area key ↔ namesIn? area entry.1 = some [key] :=
    ⟨fun h => h ▸ namesIn?_keyVariable (hwhole key hkey) area, namesIn?_eq_singleton⟩
  unfold setVariable
  split
  · rename_i names hname
    rw [setNested_eq_none]
    refine and_congr_left fun _ => exists_congr fun key => and_congr_right fun hkey => ?_
    rw [hnames hkey, hname, Option.some.injEq]
  · rename_i hname
    refine ⟨nofun, ?_⟩
    rintro ⟨⟨key, hkey, h⟩, -⟩
    rw [hnames hkey, hname] at h
    contradiction

theorem foldlM_setVariable_eq_none
    (hwhole : ∀ key ∈ listKeys lists, splitNested key.toList = [key.toList]) {fields : Fields} :
    env.foldlM (setVariable area lists) fields = none ↔
      ∃ entry ∈ env, (∃ key ∈ listKeys lists, entry.1 = keyVariable area key) ∧
        Json.read? entry.2 = none := by
  induction env generalizing fields with
  | nil => simp
  | cons entry rest ih =>
    rw [List.foldlM_cons, List.exists_mem_cons_iff, ← setVariable_eq_none hwhole fields entry]
    cases hset : setVariable area lists fields entry with
    | none => simp
    | some next => simpa using ih

theorem nested_eq_none (hwhole : ∀ key ∈ listKeys lists, splitNested key.toList = [key.toList])
    (env : Environment) (area : String) :
    nested env.folded area lists = none ↔ ∃ key ∈ listKeys lists, ∃ text,
      env.value? (keyVariable area key) = some text ∧ Json.read? text = none := by
  rw [nested, foldlM_setVariable_eq_none hwhole]
  have hmem {key text : String} :
      (key, text) ∈ env.folded ↔ env.value? key = some text := by
    rw [← get?_folded, get?_eq_some_iff env.nodup_folded]
  constructor
  · rintro ⟨⟨_, text⟩, hentry, ⟨key, hkey, rfl⟩, hread⟩
    exact ⟨key, hkey, text, hmem.mp hentry, hread⟩
  · rintro ⟨key, hkey, text, hvalue, hread⟩
    exact ⟨_, hmem.mpr hvalue, ⟨key, hkey, rfl⟩, hread⟩

theorem section?_eq_error
    (hwhole : ∀ key ∈ listKeys lists, splitNested key.toList = [key.toList]) (known : List String)
    {f : Failure} :
    env.folded.section? area known lists = .error f ↔
      f = .unreadableVariable area ∧ env.Unreadable area lists := by
  have hnested := nested_eq_none hwhole env area
  simp only [section?, get?_folded, Unreadable]
  cases env.value? (variableStart ++ area) with
  | none =>
    simp only [Option.map_none, ← hnested]
    cases nested env.folded area lists with
    | none => exact ⟨fun h => ⟨(Except.error.inj h).symm, rfl⟩, fun h => h.1 ▸ rfl⟩
    | some own => simp
  | some text =>
    simp only [Option.map_some]
    cases Json.read? text with
    | none => simp [eq_comm]
    | some value =>
      cases value
      case object fields =>
        simp only [← hnested]
        cases nested env.folded area lists with
        | none => exact ⟨fun h => ⟨(Except.error.inj h).symm, rfl⟩, fun h => h.1 ▸ rfl⟩
        | some own => simp
      all_goals simp

theorem section?_ok_iff
    (hwhole : ∀ key ∈ listKeys lists, splitNested key.toList = [key.toList])
    (known : List String) :
    (∃ found, env.folded.section? area known lists = .ok found) ↔ ¬env.Unreadable area lists := by
  cases hsection : env.folded.section? area known lists with
  | error f =>
    have hunreadable := ((section?_eq_error hwhole known).mp hsection).2
    simp [hunreadable]
  | ok found =>
    refine iff_of_true ⟨found, rfl⟩ fun hunreadable => ?_
    have := (section?_eq_error hwhole known).mpr ⟨rfl, hunreadable⟩
    rw [hsection] at this
    contradiction

end Sections

end BuildLauncher.Environment

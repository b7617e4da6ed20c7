import BuildLauncher.Proofs.Settings.Sections
import BuildLauncher.Proofs.Steps
import BuildLauncher.Settings.Assembly

/-!
# The sources of the settings

Arguments, the environment and a document give fields under names of their own. Each is read here
under the names of the fields, together with the fields that it comes to before it is merged.
-/
namespace BuildLauncher

open Files Environment

namespace Fields

theorem mem_set {fields : Fields} {name : String} {value : Value} {entry : String × Value}
    (h : entry ∈ set fields name value) : entry = (name, value) ∨ entry ∈ fields := by
  induction fields with
  | nil => exact .inl (List.mem_singleton.mp h)
  | cons field rest ih =>
    obtain ⟨key, old⟩ := field
    by_cases hk : key = name
    · rw [set, if_pos hk, List.mem_cons] at h
      exact h.imp_right (List.mem_cons_of_mem _)
    · rw [set, if_neg hk, List.mem_cons] at h
      rcases h with rfl | h
      · exact .inr List.mem_cons_self
      · exact (ih h).imp_right (List.mem_cons_of_mem _)

theorem mem_foldl_set {pairs : List (String × Value)} {fields : Fields} {entry : String × Value}
    (h : entry ∈ pairs.foldl (fun fields p => set fields p.1 p.2) fields) :
    entry ∈ fields ∨ entry ∈ pairs := by
  induction pairs generalizing fields with
  | nil => exact .inl h
  | cons p rest ih =>
    rcases ih h with hset | hrest
    · rcases mem_set hset with rfl | hold
      · exact .inr List.mem_cons_self
      · exact .inl hold
    · exact .inr (List.mem_cons_of_mem p hrest)

theorem mem_ofPairs {pairs : List (String × Value)} {entry : String × Value}
    (h : entry ∈ ofPairs pairs) : entry ∈ pairs := by
  simpa using mem_foldl_set h

theorem get?_filter_ne {name other : String} (h : other ≠ name) (fields : Fields) :
    get? (fields.filter (·.1 ≠ name)) other = get? fields other := by
  induction fields with
  | nil => rfl
  | cons field rest ih =>
    obtain ⟨key, value⟩ := field
    by_cases hk : key = name
    · subst hk
      simpa [get?_cons, h] using ih
    · rw [List.filter_cons_of_pos (by simpa using hk), get?_cons, get?_cons, ih]

/-- The names of fields that are made where there is a value for them. -/
theorem map_fst_filterMap {α : Type} (items : List α) (name : α → String) (value? : α → Option Value) :
    ((items.filterMap fun i => (value? i).map fun v => (name i, v)).map Prod.fst).Sublist
      (items.map name) := by
  induction items with
  | nil => exact .refl _
  | cons i rest ih =>
    rw [List.filterMap_cons]
    cases value? i with
    | none => exact ih.cons _
    | some v => exact ih.cons_cons _

theorem get?_filterMap {α : Type} {items : List α} (name : α → String) (value? : α → Option Value)
    {item : α} (hitem : item ∈ items) (hinj : ∀ i ∈ items, name i = name item → i = item) :
    get? (items.filterMap fun i => (value? i).map fun v => (name i, v)) (name item) =
      value? item := by
  have hother (rest : List α) (h : ∀ i ∈ rest, name i ≠ name item) :
      get? (rest.filterMap fun i => (value? i).map fun v => (name i, v)) (name item) = none :=
    get?_eq_none_iff.mpr fun hmem => by
      obtain ⟨i, hi, hname⟩ := List.mem_map.mp ((map_fst_filterMap rest name value?).subset hmem)
      exact h i hi hname
  induction items with
  | nil => simp at hitem
  | cons i rest ih =>
    have hrest := fun j hj => hinj j (List.mem_cons_of_mem i hj)
    by_cases hi : name i = name item
    · obtain rfl := hinj i List.mem_cons_self hi
      rw [List.filterMap_cons]
      cases hv : value? i with
      | some v => simp [get?_cons]
      | none =>
        by_cases hmem : i ∈ rest
        · simpa [hv] using ih hmem hrest
        · exact hother rest fun j hj hname => hmem (hrest j hj hname ▸ hj)
    · have hmem : item ∈ rest := (List.mem_cons.mp hitem).resolve_left fun h => hi (h ▸ rfl)
      rw [List.filterMap_cons]
      cases value? i with
      | some v => simpa [get?_cons, Ne.symm hi] using ih hmem hrest
      | none => exact ih hmem hrest

end Fields

namespace Settings

theorem sourceName_inj :
    ∀ m ∈ scalarNames, ∀ n ∈ scalarNames, sourceName m = sourceName n → m = n := by
  decide

theorem sourceName_scalar :
    ∀ n ∈ scalarNames, sourceName n ∈ fieldNames ∧ sourceName n ≠ "config_path" := by
  decide

section Document

/-- What a document gives for a field: the last of its keys counts that is a name of the field. -/
def inDocument? (document : Fields) (name : String) : Option Value :=
  (document.reverse.find? (sourceName ·.1 = sourceName name)).map Prod.snd

theorem get?_underSourceNames (document : Fields) (name : String) :
    (underSourceNames document).get? (sourceName name) = inDocument? document name := by
  rw [underSourceNames, Fields.get?_ofPairs, Fields.get?_eq_find?, ← List.map_reverse,
    List.find?_map, Option.map_map]
  rfl

end Document

section Arguments

instance (known : List String) : Decidable (Distinguished known) :=
  inferInstanceAs (Decidable (∀ a ∈ known, ∀ b ∈ known, _ → _))

theorem distinguished_fieldNames : Distinguished fieldNames := by decide +kernel

theorem get?_properFields (fields : Fields) (name : String) :
    (properFields fields).get? name = (fields.find? (argumentName ·.1 = name)).map Prod.snd := by
  induction fields with
  | nil => rfl
  | cons field rest ih =>
    obtain ⟨key, value⟩ := field
    rw [properFields, Fields.get?_cons, List.find?_cons]
    by_cases h : argumentName key = name
    · simp [h]
    · simp only [if_neg (Ne.symm h), Fields.get?_filter_ne (Ne.symm h), ih, h, decide_false]

theorem nodup_properFields (fields : Fields) : ((properFields fields).map Prod.fst).Nodup := by
  induction fields with
  | nil => exact List.nodup_nil
  | cons field rest ih =>
    rw [properFields, List.map_cons, List.nodup_cons]
    refine ⟨fun hmem => ?_, ih.sublist (List.filter_sublist.map _)⟩
    obtain ⟨entry, hentry, hname⟩ := List.mem_map.mp hmem
    simpa [hname] using (List.mem_filter.mp hentry).2

/-- What arguments give for a field: the first one counts whose name is that of the field in any case
of letters. Two names for one field are the same argument, and its later value stands. -/
def argument? (arguments : Fields) (name : String) : Option Value :=
  ((underSourceNames arguments).find? (Text.lower ·.1 = Text.lower (sourceName name))).map Prod.snd

/-- The arguments as they are merged: the path of the file is among them. -/
def argumentFields (arguments : Fields) : Fields :=
  properFields (("config_path", .null) :: underSourceNames arguments)

theorem get?_argumentFields (arguments : Fields) {name : String}
    (hname : sourceName name ∈ fieldNames) (hconfig : sourceName name ≠ "config_path") :
    (argumentFields arguments).get? (sourceName name) = argument? arguments name := by
  have hiff (key : String) :
      argumentName key = sourceName name ↔ Text.lower key = Text.lower (sourceName name) :=
    getD_find?_eq_iff distinguished_fieldNames hname key
  have hskip : ¬Text.lower "config_path" = Text.lower (sourceName name) := fun h =>
    hconfig (distinguished_fieldNames _ (by decide) _ hname h).symm
  simp only [argumentFields, get?_properFields, argument?, hiff, List.find?_cons, hskip,
    decide_false]

theorem nodup_argumentFields (arguments : Fields) :
    ((argumentFields arguments).map Prod.fst).Nodup :=
  nodup_properFields _

theorem mem_of_argument? {arguments : Fields} {name : String} {value : Value}
    (h : argument? arguments name = some value) : ∃ key, (key, value) ∈ arguments := by
  obtain ⟨entry, hfind, rfl⟩ := Option.map_eq_some_iff.mp h
  obtain ⟨source, hsource, rfl⟩ :=
    List.mem_map.mp (Fields.mem_ofPairs (List.mem_of_find?_eq_some hfind))
  exact ⟨source.1, hsource⟩

theorem properFields_eq_self {fields : Fields} (hnodup : (fields.map Prod.fst).Nodup)
    (hnames : ∀ name ∈ fields.map Prod.fst, name ∈ fieldNames) : properFields fields = fields := by
  induction fields with
  | nil => rfl
  | cons field rest ih =>
    obtain ⟨key, value⟩ := field
    obtain ⟨hkey, hrest⟩ := List.nodup_cons.mp hnodup
    obtain ⟨hfield, hfields⟩ := List.forall_mem_cons.mp hnames
    have hproper : argumentName key = key :=
      (getD_find?_eq_iff distinguished_fieldNames hfield key).mpr rfl
    have hothers : rest.filter (·.1 ≠ key) = rest :=
      List.filter_eq_self.mpr fun entry hentry => decide_eq_true fun heq =>
        hkey (List.mem_map.mpr ⟨entry, hentry, heq⟩)
    rw [properFields, hproper, ih hrest hfields, hothers]

variable {arguments : Fields}

/-- Arguments for single values, each for another one, are taken as they stand. -/
theorem argumentFields_eq (hnodup : (arguments.map Prod.fst).Nodup)
    (hnames : arguments.map Prod.fst ⊆ scalarNames) :
    argumentFields arguments =
      ("config_path", .null) :: arguments.map fun entry => (sourceName entry.1, entry.2) := by
  have hmap : (arguments.map fun entry => (sourceName entry.1, entry.2)).map Prod.fst =
      (arguments.map Prod.fst).map sourceName := by simp
  have hdistinct : ((arguments.map Prod.fst).map sourceName).Nodup :=
    hnodup.map_on fun m hm n hn => sourceName_inj m (hnames hm) n (hnames hn)
  rw [argumentFields, underSourceNames, Fields.ofPairs_eq_self (by rwa [hmap])]
  apply properFields_eq_self
  · rw [List.map_cons, hmap]
    refine List.nodup_cons.mpr ⟨fun hmem => ?_, hdistinct⟩
    obtain ⟨n, hn, heq⟩ := List.mem_map.mp hmem
    exact (sourceName_scalar n (hnames hn)).2 heq
  · rw [List.map_cons, hmap]
    rintro name (_ | ⟨_, hmem⟩)
    · decide
    · obtain ⟨n, hn, rfl⟩ := List.mem_map.mp hmem
      exact (sourceName_scalar n (hnames hn)).1

theorem argument?_eq_get? (hnodup : (arguments.map Prod.fst).Nodup)
    (hnames : arguments.map Prod.fst ⊆ scalarNames) {name : String} (hname : name ∈ scalarNames) :
    argument? arguments name = arguments.get? name := by
  rw [← get?_argumentFields arguments (sourceName_scalar name hname).1 (sourceName_scalar name hname).2,
    argumentFields_eq hnodup hnames, Fields.get?_cons, if_neg (sourceName_scalar name hname).2]
  exact Fields.get?_map_fst fun entry hentry =>
    sourceName_inj _ (hnames (List.mem_map_of_mem hentry)) name hname

end Arguments

section Variables

/-- What the environment gives for a field that is a single value. -/
def inEnvironment? (env : Environment) (name : String) : Option Value :=
  (env.value? (variableOf name)).map .text

variable {env : Environment} {fields : Fields}

/-- The fields of single values that the environment gives. -/
def scalarFields (env : Environment) : Fields :=
  scalarNames.filterMap fun name => (inEnvironment? env name).map fun v => (sourceName name, v)

theorem get?_scalarFields (env : Environment) {name : String} (hname : name ∈ scalarNames) :
    (scalarFields env).get? (sourceName name) = inEnvironment? env name := by
  exact Fields.get?_filterMap sourceName (inEnvironment? env) hname fun n hn => sourceName_inj n hn name hname

variable [Platform]

/-- The fields of the environment are single values and the two sections. -/
theorem environmentFields_ok (h : environmentFields env = .ok fields) :
    ∃ layout runner,
      env.folded.section? "layout" LayoutSection.fieldNames ["readonly"] = .ok layout ∧
      env.folded.section? "runner" RunnerSection.fieldNames [] = .ok runner ∧
      fields = scalarFields env ++ [("layout", layout), ("runner", runner)].filterMap fun i =>
        i.2.map fun v => (i.1, v) := by
  obtain ⟨⟨⟩, -, h⟩ := bind_eq_ok h
  obtain ⟨layout, hlayout, h⟩ := bind_eq_ok h
  obtain ⟨runner, hrunner, h⟩ := bind_eq_ok h
  refine ⟨layout, runner, hlayout, hrunner, ?_⟩
  rw [← Except.ok.inj h, scalarFields]
  simp only [inEnvironment?, get?_folded, Option.map_map, Function.comp_def]

theorem nodup_environmentFields (h : environmentFields env = .ok fields) :
    (fields.map Prod.fst).Nodup := by
  obtain ⟨layout, runner, -, -, rfl⟩ := environmentFields_ok h
  have hall : (scalarNames.map sourceName ++ ["layout", "runner"]).Nodup := by decide
  rw [List.map_append]
  exact hall.sublist ((Fields.map_fst_filterMap _ _ _).append (Fields.map_fst_filterMap _ _ _))

theorem get?_environmentFields (h : environmentFields env = .ok fields) {name : String}
    (hname : name ∈ scalarNames) : fields.get? (sourceName name) = inEnvironment? env name := by
  obtain ⟨layout, runner, -, -, rfl⟩ := environmentFields_ok h
  have hother : ∀ a ∈ scalarNames, sourceName a ∉ ["layout", "runner"] := by decide
  rw [Fields.get?_append, get?_scalarFields env hname, Fields.get?_eq_none_iff.mpr, Option.or_none]
  exact fun hmem => hother name hname ((Fields.map_fst_filterMap _ _ _).subset hmem)

theorem get?_environmentFields_section (h : environmentFields env = .ok fields) :
    env.folded.section? "layout" LayoutSection.fieldNames ["readonly"] =
        .ok (fields.get? "layout") ∧
      env.folded.section? "runner" RunnerSection.fieldNames [] = .ok (fields.get? "runner") := by
  obtain ⟨layout, runner, hlayout, hrunner, rfl⟩ := environmentFields_ok h
  have hscalar (name : String) (hname : name ∈ ["layout", "runner"]) :
      (scalarFields env).get? name = none := by
    have hother : ∀ n ∈ ["layout", "runner"], n ∉ scalarNames.map sourceName := by decide
    exact Fields.get?_eq_none_iff.mpr fun hmem =>
      hother name hname ((Fields.map_fst_filterMap _ _ _).subset hmem)
  rw [Fields.get?_append, Fields.get?_append, hscalar _ (by decide), hscalar _ (by decide),
    hlayout, hrunner]
  cases layout <;> cases runner <;> simp [Fields.get?_cons]

end Variables

end Settings
end BuildLauncher

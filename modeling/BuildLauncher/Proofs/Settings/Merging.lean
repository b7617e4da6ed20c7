import BuildLauncher.Settings.Merge
import Mathlib.Data.List.Nodup

/-!
# Merged objects

A merged object has at each name what the newer object gives there, or else what the older one gives.
Only where both give objects is there something new, and it is an object as well.
-/
namespace BuildLauncher

namespace Fields

theorem get?_append (first rest : Fields) (name : String) :
    get? (first ++ rest) name = (get? first name).or (get? rest name) := by
  simp only [get?, List.lookup_append]

theorem get?_eq_find? (fields : Fields) (name : String) :
    get? fields name = (fields.find? (·.1 = name)).map Prod.snd := by
  induction fields with
  | nil => rfl
  | cons field rest ih =>
    obtain ⟨key, value⟩ := field
    by_cases h : key = name
    · simp [get?_cons, h]
    · simp [get?_cons, h, Ne.symm h, ih]

theorem get?_eq_none_iff {fields : Fields} {name : String} :
    get? fields name = none ↔ name ∉ fields.map Prod.fst := by
  simp only [get?_eq_find?, Option.map_eq_none_iff, List.find?_eq_none, decide_eq_true_eq,
    List.mem_map, not_exists, not_and]

theorem map_fst_set (fields : Fields) (name : String) (value : Value) :
    (set fields name value).map Prod.fst =
      if name ∈ fields.map Prod.fst then fields.map Prod.fst
      else fields.map Prod.fst ++ [name] := by
  induction fields with
  | nil => rfl
  | cons field rest ih =>
    obtain ⟨key, old⟩ := field
    by_cases h : key = name
    · simp [set, h]
    · simp only [set, if_neg h, List.map_cons, ih, List.mem_cons, Ne.symm h, false_or]
      split <;> rfl

theorem nodup_set {fields : Fields} (h : (fields.map Prod.fst).Nodup) (name : String)
    (value : Value) : ((set fields name value).map Prod.fst).Nodup := by
  rw [map_fst_set]
  split
  · exact h
  · rename_i hname
    exact h.append (List.nodup_singleton name) (List.disjoint_singleton.mpr hname)

theorem foldl_set (pairs : List (String × Value)) (fields : Fields) (name : String) :
    get? (pairs.foldl (fun fields p => set fields p.1 p.2) fields) name =
      (get? pairs.reverse name).or (get? fields name) := by
  induction pairs generalizing fields with
  | nil => rfl
  | cons p rest ih =>
    obtain ⟨key, value⟩ := p
    rw [List.foldl_cons, ih, get?_set, List.reverse_cons, get?_append, Option.or_assoc, get?_cons,
      get?_nil]
    split <;> rfl

/-- Of several values for a name the last one counts. -/
theorem get?_ofPairs (pairs : List (String × Value)) (name : String) :
    get? (ofPairs pairs) name = get? pairs.reverse name := by
  rw [ofPairs, foldl_set, get?_nil, Option.or_none]

theorem nodup_foldl_set (pairs : List (String × Value)) {fields : Fields}
    (h : (fields.map Prod.fst).Nodup) :
    ((pairs.foldl (fun fields p => set fields p.1 p.2) fields).map Prod.fst).Nodup := by
  induction pairs generalizing fields with
  | nil => exact h
  | cons p rest ih => exact ih (nodup_set h p.1 p.2)

theorem nodup_ofPairs (pairs : List (String × Value)) :
    ((ofPairs pairs).map Prod.fst).Nodup := nodup_foldl_set pairs List.nodup_nil

theorem set_of_not_mem {fields : Fields} {name : String} (h : name ∉ fields.map Prod.fst)
    (value : Value) : set fields name value = fields ++ [(name, value)] := by
  induction fields with
  | nil => rfl
  | cons field rest ih =>
    obtain ⟨key, old⟩ := field
    rw [List.map_cons, List.mem_cons, not_or] at h
    rw [set, if_neg (Ne.symm h.1), ih h.2, List.cons_append]

theorem ofPairs_eq_self {pairs : List (String × Value)} (h : (pairs.map Prod.fst).Nodup) :
    ofPairs pairs = pairs := by
  have hfold (rest : List (String × Value)) (fields : Fields)
      (h : ((fields ++ rest).map Prod.fst).Nodup) :
      rest.foldl (fun fields p => set fields p.1 p.2) fields = fields ++ rest := by
    induction rest generalizing fields with
    | nil => exact (List.append_nil fields).symm
    | cons p rest ih =>
      have hp : p.1 ∉ fields.map Prod.fst := by
        rw [List.map_append, List.map_cons] at h
        exact fun hmem => List.disjoint_of_nodup_append h hmem List.mem_cons_self
      rw [List.append_cons] at h
      rw [List.foldl_cons, set_of_not_mem hp, ih _ h, List.append_assoc, List.singleton_append]
  exact hfold pairs [] h

/-- Other names for the same fields. -/
theorem get?_map_fst {fields : Fields} {f : String → String} {name : String}
    (h : ∀ entry ∈ fields, f entry.1 = f name → entry.1 = name) :
    get? (fields.map fun entry => (f entry.1, entry.2)) (f name) = get? fields name := by
  induction fields with
  | nil => rfl
  | cons field rest ih =>
    obtain ⟨key, value⟩ := field
    have hkey : f name = f key ↔ name = key :=
      ⟨fun heq => (h _ List.mem_cons_self heq.symm).symm, congrArg f⟩
    simp only [List.map_cons, get?_cons, hkey, ih fun entry hentry =>
      h entry (List.mem_cons_of_mem _ hentry)]

end Fields

/-- Found is what is given, or an object in its place. -/
def OrObject (given found : Option Value) : Prop :=
  found = given ∨ ∃ fields, found = some (.object fields)

namespace OrObject

variable {a b c : Option Value}

theorem refl (a : Option Value) : OrObject a a := .inl rfl

theorem object (a : Option Value) (fields : Fields) : OrObject a (some (.object fields)) :=
  .inr ⟨fields, rfl⟩

theorem trans (hab : OrObject a b) (hbc : OrObject b c) : OrObject a c := by
  obtain rfl | ⟨fields, rfl⟩ := hbc
  · exact hab
  · exact object a fields

theorem or_right (a : Option Value) (h : OrObject b c) : OrObject (a.or b) (a.or c) := by
  cases a with
  | none => exact h
  | some v => exact refl _

theorem or_left (h : OrObject a b) (c : Option Value) : OrObject (a.or c) (b.or c) := by
  obtain rfl | ⟨fields, rfl⟩ := h
  · exact refl _
  · exact object _ fields

end OrObject

theorem mergeValue_object (older : Option Value) (fields : Fields) :
    ∃ merged, mergeValue older (.object fields) = .object merged := by
  simp only [mergeValue]
  split <;> exact ⟨_, rfl⟩

/-- A value that is merged into an older one stays, unless it becomes another object. -/
theorem mergeValue_cases (older : Option Value) (v : Value) :
    mergeValue older v = v ∨ ∃ merged, mergeValue older v = .object merged := by
  cases v
  case object fields => exact .inr (mergeValue_object older fields)
  all_goals exact .inl rfl

/-- What stands at a name after a merge. -/
theorem get?_mergeFields {newer : Fields} (h : (newer.map Prod.fst).Nodup) (older : Fields)
    (name : String) :
    (mergeFields older newer).get? name =
      ((newer.get? name).map (mergeValue (older.get? name))).or (older.get? name) := by
  induction newer generalizing older with
  | nil => rfl
  | cons field rest ih =>
    obtain ⟨key, value⟩ := field
    obtain ⟨hkey, hrest⟩ := List.nodup_cons.mp h
    rw [mergeFields, ih hrest, Fields.get?_set, Fields.get?_cons]
    by_cases hname : name = key
    · subst hname
      simp [Fields.get?_eq_none_iff.mpr hkey]
    · simp [hname]

theorem orObject_mergeFields {newer : Fields} (h : (newer.map Prod.fst).Nodup) (older : Fields)
    (name : String) :
    OrObject ((newer.get? name).or (older.get? name)) ((mergeFields older newer).get? name) := by
  rw [get?_mergeFields h]
  cases newer.get? name with
  | none => exact .refl _
  | some v =>
    rw [Option.map_some, Option.some_or, Option.some_or]
    rcases mergeValue_cases (older.get? name) v with heq | ⟨merged, heq⟩
    · rw [heq]
      exact .refl _
    · rw [heq]
      exact .object _ merged

/-- The value of a key in a section. What is no object has no keys. -/
def within (found : Option Value) (key : String) : Option Value :=
  match found with
  | some (.object own) => Fields.get? own key
  | _ => none

/-- A section: an object with distinct keys, if there is one. -/
def IsSection (found : Option Value) : Prop :=
  ∀ v, found = some v → ∃ own, v = .object own ∧ (own.map Prod.fst).Nodup

/-- Sections are merged key by key. -/
theorem orObject_within_mergeFields {newer : Fields} (h : (newer.map Prod.fst).Nodup)
    (older : Fields) {name : String} (hname : IsSection (newer.get? name)) (key : String) :
    OrObject ((within (newer.get? name) key).or (within (older.get? name) key))
      (within ((mergeFields older newer).get? name) key) := by
  rw [get?_mergeFields h]
  cases hn : newer.get? name with
  | none => exact .refl _
  | some v =>
    obtain ⟨own, rfl, hown⟩ := hname v hn
    cases older.get? name with
    | none => simp [within, mergeValue, OrObject]
    | some w =>
      cases w
      case object before =>
        simpa only [within, Option.map_some, Option.some_or, mergeValue] using
          orObject_mergeFields hown before key
      all_goals simp [within, mergeValue, OrObject]

end BuildLauncher

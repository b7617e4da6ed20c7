/-!
# Steps that may fail

Steps one after the other come to an end if each of them does, and otherwise fail as the first of
them that does not.
-/
namespace BuildLauncher

section

variable {ε δ α β : Type} {first : Except ε α} {next : α → Except ε β} {b : β} {e : ε}

@[simp] theorem ok_bind (a : α) (next : α → Except ε β) : (.ok a >>= next) = next a := rfl

@[simp] theorem error_bind (e : ε) (next : α → Except ε β) : (.error e >>= next) = .error e := rfl

@[simp] theorem mapError_ok (f : ε → δ) (a : α) : (Except.ok a).mapError f = .ok a := rfl

@[simp] theorem mapError_error (f : ε → δ) (e : ε) :
    (Except.error e : Except ε α).mapError f = .error (f e) := rfl

@[simp] theorem map_ok (f : α → β) (a : α) : (Except.ok a : Except ε α).map f = .ok (f a) := rfl

@[simp] theorem map_error (f : α → β) (e : ε) :
    (Except.error e : Except ε α).map f = .error e := rfl

theorem throw_eq_error (e : ε) : (throw e : Except ε α) = .error e := rfl

/-- Steps that succeed one after the other have each succeeded. -/
theorem bind_eq_ok (h : first >>= next = .ok b) : ∃ a, first = .ok a ∧ next a = .ok b := by
  cases first with
  | error e => contradiction
  | ok a => exact ⟨a, rfl, h⟩

/-- Steps that go on alike from every result that comes about come to the same end. -/
theorem bind_congr_ok {other : α → Except ε β} (h : ∀ a, first = .ok a → next a = other a) :
    first >>= next = first >>= other := by
  cases first with
  | error e => rfl
  | ok a => exact h a rfl

theorem bind_eq_error :
    first >>= next = .error e ↔ first = .error e ∨ ∃ a, first = .ok a ∧ next a = .error e := by
  cases first <;> simp [bind, Except.bind]

theorem map_eq_ok {f : α → β} (h : first.map f = .ok b) : ∃ a, first = .ok a ∧ f a = b := by
  cases first with
  | error e => contradiction
  | ok a => exact ⟨a, rfl, Except.ok.inj h⟩

theorem map_eq_error {f : α → β} : first.map f = .error e ↔ first = .error e := by
  cases first <;> simp [Except.map]

theorem mapError_eq_ok {f : ε → δ} {a : α} (h : first.mapError f = .ok a) : first = .ok a := by
  cases first with
  | error e => contradiction
  | ok a => exact congrArg Except.ok (Except.ok.inj h)

/-- A step after which nothing fails ends the whole as it ends itself. -/
theorem map_const_bind_pure {γ : Type} (next : α → β) (c : γ) :
    (first >>= fun a => pure (next a)).map (fun _ => c) = first.map fun _ => c := by
  cases first <;> rfl

theorem map_const_pure {γ : Type} (a : α) (c : γ) :
    (pure a : Except ε α).map (fun _ => c) = .ok c := rfl

/-- A result of which something is known has come about. -/
theorem toOption_map_eq_some {f : α → β} (h : first.toOption.map f = some b) :
    ∃ a, first = .ok a ∧ f a = b := by
  cases first with
  | error e => contradiction
  | ok a => exact ⟨a, rfl, Option.some.inj h⟩

/-- Steps over a list that each succeed with a good result succeed with good results. -/
theorem exists_mapM_ok {f : α → Except ε β} {good : β → Prop} {l : List α}
    (h : ∀ a ∈ l, ∃ b, f a = .ok b ∧ good b) : ∃ bs, l.mapM f = .ok bs ∧ ∀ b ∈ bs, good b := by
  induction l with
  | nil => exact ⟨[], rfl, by simp⟩
  | cons a rest ih =>
    obtain ⟨⟨b, hb, hgood⟩, hrest⟩ := List.forall_mem_cons.mp h
    obtain ⟨bs, hbs, hmore⟩ := ih hrest
    refine ⟨b :: bs, ?_, List.forall_mem_cons.mpr ⟨hgood, hmore⟩⟩
    rw [List.mapM_cons, hb, ok_bind, hbs]
    rfl

end

end BuildLauncher

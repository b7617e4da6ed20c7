import BuildLauncher.Text.Wrap
import Mathlib.Data.List.TakeWhile

/-!
# Visible characters

Wrapping a text drops blanks, makes blanks of tabs and puts blanks in: what is left the same are the
characters that are no blanks.
-/
namespace BuildLauncher.Text

/-- The characters of a text that are no blanks. -/
def visible (s : List Char) : List Char := s.filter (!isBlank ·)

/-- Does the character take the same cells wherever it stands? -/
def isSteady (c : Char) : Bool := c ≠ zeroWidthJoiner && c ≠ emojiSelector

def Steady (s : List Char) : Prop := ∀ c ∈ s, isSteady c = true

instance (s : List Char) : Decidable (Steady s) := List.decidableBAll ..

section Visible

variable {s t : List Char}

@[simp] theorem visible_nil : visible [] = [] := rfl

@[simp] theorem visible_append (s t : List Char) : visible (s ++ t) = visible s ++ visible t :=
  List.filter_append ..

theorem visible_cons (c : Char) (s : List Char) :
    visible (c :: s) = if isBlank c then visible s else c :: visible s := by
  cases h : isBlank c <;> simp [visible, h]

theorem visible_eq_nil_iff : visible s = [] ↔ ∀ c ∈ s, isBlank c = true := by
  simp [visible, List.filter_eq_nil_iff]

@[simp] theorem visible_replicate_blank (n : Nat) : visible (List.replicate n ' ') = [] :=
  visible_eq_nil_iff.mpr fun c hc => by rw [(List.mem_replicate.mp hc).2]; rfl

@[simp] theorem visible_flatten (parts : List (List Char)) :
    visible parts.flatten = parts.flatMap visible := by
  induction parts with
  | nil => rfl
  | cons part rest ih => simp [ih]

/-- Blanks between parts are not visible. -/
theorem visible_intercalate {c : Char} (hc : isBlank c = true) (parts : List (List Char)) :
    visible ([c].intercalate parts) = parts.flatMap visible := by
  have hblank : visible [c] = [] := visible_eq_nil_iff.mpr (List.forall_mem_singleton.mpr hc)
  induction parts with
  | nil => rfl
  | cons part rest ih =>
    cases rest with
    | nil => simp
    | cons next more =>
      rw [List.intercalate_cons_cons, visible_append, visible_append, hblank, ih, List.append_nil]
      rfl

theorem visible_flatMap {α : Type} (f : α → List Char) (parts : List α) :
    visible (parts.flatMap f) = parts.flatMap fun part => visible (f part) := by
  rw [List.flatMap_def, visible_flatten, List.flatMap_map]

theorem mem_visible {c : Char} : c ∈ visible s ↔ c ∈ s ∧ isBlank c = false := by
  simp [visible]

/-- What holds of all characters but blanks is seen on the visible ones. -/
theorem forall_mem_visible {p : Char → Prop} (hblank : ∀ c, isBlank c = true → p c) :
    (∀ c ∈ visible s, p c) ↔ ∀ c ∈ s, p c := by
  constructor
  · intro h c hc
    cases hb : isBlank c with
    | true => exact hblank c hb
    | false => exact h c (mem_visible.mpr ⟨hc, hb⟩)
  · exact fun h c hc => h c (mem_visible.mp hc).1

theorem isSteady_of_isBlank {c : Char} (h : isBlank c = true) : isSteady c = true := by
  have hjoiner : isBlank zeroWidthJoiner = false := by decide
  have hselector : isBlank emojiSelector = false := by decide
  simp only [isSteady, Bool.and_eq_true, decide_eq_true_eq]
  constructor
  · rintro rfl
    simp [hjoiner] at h
  · rintro rfl
    simp [hselector] at h

/-- Texts with the same visible characters are steady at the same time. -/
theorem Steady.of_visible_eq (hs : Steady s) (h : visible t = visible s) : Steady t := by
  have hblank (c : Char) : isBlank c = true → isSteady c = true := isSteady_of_isBlank
  exact (forall_mem_visible hblank).mp (h ▸ (forall_mem_visible hblank).mpr hs)

@[simp] theorem steady_append : Steady (s ++ t) ↔ Steady s ∧ Steady t := List.forall_mem_append

end Visible

section Blanks

variable {a b s : List Char}

theorem dropEndWhile_append_blank (h : visible b = []) :
    dropEndWhile isBlank (a ++ b) = dropEndWhile isBlank a := by
  have hb : ∀ c ∈ b.reverse, isBlank c = true := fun c hc =>
    visible_eq_nil_iff.mp h c (List.mem_reverse.mp hc)
  simp [dropEndWhile, List.dropWhile_append_of_pos hb]

theorem dropEndWhile_append (h : visible b ≠ []) :
    dropEndWhile isBlank (a ++ b) = a ++ dropEndWhile isBlank b := by
  have hb : (b.reverse.dropWhile isBlank).isEmpty = false := by
    rw [Bool.eq_false_iff, ne_eq, List.isEmpty_iff, List.dropWhile_eq_nil_iff]
    simpa [visible_eq_nil_iff] using h
  simp [dropEndWhile, List.dropWhile_append, hb]

/-- Nothing is dropped before a character that is kept. -/
theorem dropEndWhile_append_cons {p : Char → Bool} {c : Char} (hc : p c = false) (a b : List Char) :
    dropEndWhile p (a ++ c :: b) = a ++ c :: dropEndWhile p b := by
  simp only [dropEndWhile, List.reverse_append, List.reverse_cons, List.append_assoc,
    List.dropWhile_append, List.singleton_append, List.dropWhile_cons, hc]
  split <;> simp_all

theorem dropEndWhile_eq_nil (h : visible s = []) : dropEndWhile isBlank s = [] := by
  rw [← List.nil_append s, dropEndWhile_append_blank h]
  rfl

/-- A text ends in the blanks that can be dropped from its end. -/
theorem exists_dropEndWhile_append (p : Char → Bool) (s : List Char) :
    ∃ ending, s = dropEndWhile p s ++ ending ∧ ∀ c ∈ ending, p c = true := by
  refine ⟨(s.reverse.takeWhile p).reverse, ?_, fun c hc => ?_⟩
  · rw [dropEndWhile, ← List.reverse_append, List.takeWhile_append_dropWhile, List.reverse_reverse]
  · exact List.all_eq_true.mp List.all_takeWhile c (List.mem_reverse.mp hc)

/-- What is dropped from the end is not seen if it is blank. -/
theorem visible_dropEndWhile_of {p : Char → Bool} (hp : ∀ c, p c = true → isBlank c = true)
    (s : List Char) : visible (dropEndWhile p s) = visible s := by
  obtain ⟨ending, hs, hdropped⟩ := exists_dropEndWhile_append p s
  have hblank : visible ending = [] := visible_eq_nil_iff.mpr fun c hc => hp c (hdropped c hc)
  calc visible (dropEndWhile p s)
    _ = visible (dropEndWhile p s) ++ visible ending := by rw [hblank, List.append_nil]
    _ = visible s := by rw [← visible_append, ← hs]

@[simp] theorem visible_dropEndWhile (s : List Char) : visible (dropEndWhile isBlank s) = visible s :=
  visible_dropEndWhile_of (fun _ hc => hc) s

end Blanks

end BuildLauncher.Text

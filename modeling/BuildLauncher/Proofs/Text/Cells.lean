import BuildLauncher.Proofs.Text.Visible

/-!
# Counting cells

The cells of a text are counted from its start. What a joiner or a selector takes hangs on the
characters before it; where neither stands before the first character of its own that takes cells, a
part counts the same by itself as after any other text (`cellWidth_append`).
-/
namespace BuildLauncher.Text

/-- How the count of cells stands in a text: does a joiner wait for the character that it draws in,
and would a selector widen the last character that took cells? -/
structure CellState where
  joins : Bool
  widens : Bool
deriving DecidableEq

namespace CellState

def start : CellState := ⟨false, false⟩

/-- The state after one more character. -/
def next (st : CellState) (c : Char) : CellState :=
  if st.joins then { st with joins := false }
  else if c = zeroWidthJoiner then { st with joins := true }
  else if c = emojiSelector then { st with widens := false }
  else if charWidth c = 0 then st
  else ⟨false, covers emojiBaseRanges c.toNat⟩

/-- The cells that one more character takes. -/
def cells (st : CellState) (c : Char) : Nat :=
  if st.joins then 0 else if c = emojiSelector then st.widens.toNat else charWidth c

def after (st : CellState) (s : List Char) : CellState := s.foldl next st

def cellsFrom (st : CellState) : List Char → Nat
  | [] => 0
  | c :: rest => st.cells c + cellsFrom (st.next c) rest

end CellState

section Counting

variable {a b s : List Char} {c : Char} {st : CellState}

theorem charWidth_le_two (c : Char) : charWidth c ≤ 2 := by
  unfold charWidth
  dsimp only
  repeat' split
  all_goals omega

theorem charWidth_joiner : charWidth zeroWidthJoiner = 0 := by decide +kernel

theorem charWidth_selector : charWidth emojiSelector = 0 := by decide +kernel

theorem isSteady_iff : isSteady c = true ↔ c ≠ zeroWidthJoiner ∧ c ≠ emojiSelector := by
  simp [isSteady]

theorem isSteady_of_charWidth (h : charWidth c ≠ 0) : isSteady c = true := by
  rw [isSteady_iff]
  constructor
  · rintro rfl
    exact h charWidth_joiner
  · rintro rfl
    exact h charWidth_selector

namespace CellState

@[simp] theorem after_nil (st : CellState) : st.after [] = st := rfl

@[simp] theorem after_cons (st : CellState) (c : Char) (s : List Char) :
    st.after (c :: s) = (st.next c).after s := rfl

@[simp] theorem after_append (st : CellState) (a b : List Char) :
    st.after (a ++ b) = (st.after a).after b := List.foldl_append ..

@[simp] theorem cellsFrom_append (st : CellState) (a b : List Char) :
    st.cellsFrom (a ++ b) = st.cellsFrom a + (st.after a).cellsFrom b := by
  induction a generalizing st with
  | nil => simp [cellsFrom]
  | cons c rest ih => simp [cellsFrom, ih, Nat.add_assoc]

/-- A mark that takes no cells leaves the count where it is. -/
theorem next_of_mark (hst : st.joins = false) (hc : isSteady c = true) (hwidth : charWidth c = 0) :
    st.next c = st ∧ st.cells c = 0 := by
  obtain ⟨hjoiner, hselector⟩ := isSteady_iff.mp hc
  simp [next, cells, hst, hjoiner, hselector, hwidth]

/-- A character that takes cells starts the count anew. -/
theorem next_of_wide (hst : st.joins = false) (hwidth : charWidth c ≠ 0) :
    st.next c = ⟨false, covers emojiBaseRanges c.toNat⟩ ∧ st.cells c = charWidth c := by
  obtain ⟨hjoiner, hselector⟩ := isSteady_iff.mp (isSteady_of_charWidth hwidth)
  simp [next, cells, hst, hjoiner, hselector, hwidth]

theorem joins_after_eq {other : CellState} (h : st.joins = other.joins) (s : List Char) :
    (st.after s).joins = (other.after s).joins := by
  induction s generalizing st other with
  | nil => exact h
  | cons c rest ih =>
    refine ih ?_
    unfold next
    rw [h]
    repeat' split
    all_goals simp_all

/-- A character that a selector may widen only adds to what follows. -/
theorem cellsFrom_le (joins widens : Bool) (s : List Char) :
    cellsFrom ⟨joins, false⟩ s ≤ cellsFrom ⟨joins, widens⟩ s := by
  induction s generalizing joins widens with
  | nil => exact Nat.le_refl _
  | cons c rest ih =>
    have hnext : next ⟨joins, false⟩ c = next ⟨joins, widens⟩ c ∨
        ∃ joins', next ⟨joins, false⟩ c = ⟨joins', false⟩ ∧
          next ⟨joins, widens⟩ c = ⟨joins', widens⟩ := by
      unfold next
      repeat' split
      all_goals simp_all
    have hcells : cells ⟨joins, false⟩ c ≤ cells ⟨joins, widens⟩ c := by
      unfold cells
      repeat' split
      all_goals simp_all
    rw [cellsFrom, cellsFrom]
    refine Nat.add_le_add hcells ?_
    obtain hsame | ⟨joins', hless, hmore⟩ := hnext
    · rw [hsame]
    · rw [hless, hmore]
      exact ih joins' widens

end CellState

theorem toNat_eq_ite (b : Bool) : b.toNat = if b then 1 else 0 := by
  cases b <;> rfl

/-- The cells of a text, counted character by character. -/
theorem cellWidth_eq_cellsFrom (s : List Char) : cellWidth s = CellState.start.cellsFrom s := by
  have hfrom (base : Option Char) : widthFrom base s =
      CellState.cellsFrom ⟨false, base.any (covers emojiBaseRanges ·.toNat)⟩ s := by
    have hne : zeroWidthJoiner ≠ emojiSelector := by decide
    fun_induction widthFrom base s <;>
      simp_all [CellState.cellsFrom, CellState.next, CellState.cells, charWidth_joiner, toNat_eq_ite]
  exact hfrom none

theorem cellWidth_le_append (a b : List Char) : cellWidth a ≤ cellWidth (a ++ b) := by
  rw [cellWidth_eq_cellsFrom, cellWidth_eq_cellsFrom, CellState.cellsFrom_append]
  exact Nat.le_add_right _ _

end Counting

section Seams

variable {a b s word : List Char} {c : Char} {parts runs : List (List Char)}

/-- No joiner or selector stands before the first character that takes cells. -/
def Anchored (s : List Char) : Prop := ∀ c ∈ s.takeWhile (charWidth · = 0), isSteady c = true

instance (s : List Char) : Decidable (Anchored s) := List.decidableBAll ..

/-- No joiner at the end of the text waits for a character. -/
def Closed (s : List Char) : Prop := (CellState.start.after s).joins = false

instance (s : List Char) : Decidable (Closed s) := inferInstanceAs (Decidable (_ = _))

theorem anchored_cons :
    Anchored (c :: s) ↔ (charWidth c = 0 → isSteady c = true ∧ Anchored s) := by
  by_cases h : charWidth c = 0 <;> simp [Anchored, h]

theorem anchored_nil : Anchored [] := by simp [Anchored]

theorem Anchored.append (ha : Anchored a) (hb : Anchored b) : Anchored (a ++ b) := by
  induction a with
  | nil => exact hb
  | cons c rest ih =>
    rw [List.cons_append, anchored_cons] at *
    exact fun hc => ⟨(ha hc).1, ih (ha hc).2⟩

theorem Anchored.of_append (h : Anchored (a ++ b)) : Anchored a := by
  induction a with
  | nil => exact anchored_nil
  | cons c rest ih =>
    rw [List.cons_append, anchored_cons] at *
    exact fun hc => ⟨(h hc).1, ih (h hc).2⟩

theorem Steady.anchored (h : Steady s) : Anchored s := fun c hc =>
  h c (List.takeWhile_subset _ hc)

theorem anchored_flatten (h : ∀ part ∈ parts, Anchored part) : Anchored parts.flatten := by
  induction parts with
  | nil => exact anchored_nil
  | cons part rest ih =>
    obtain ⟨hpart, hrest⟩ := List.forall_mem_cons.mp h
    exact hpart.append (ih hrest)

theorem anchored_dropEndWhile (h : Anchored s) : Anchored (dropEndWhile isBlank s) := by
  obtain ⟨ending, hs, -⟩ := exists_dropEndWhile_append isBlank s
  exact Anchored.of_append (hs ▸ h)

theorem closed_nil : Closed [] := rfl

/-- After a closed text the end tells whether a joiner waits. -/
theorem closed_append (ha : Closed a) : Closed (a ++ b) ↔ Closed b := by
  rw [Closed, CellState.after_append, CellState.joins_after_eq (show _ = CellState.start.joins from ha)]
  rfl

theorem closed_flatten (h : ∀ part ∈ parts, Closed part) : Closed parts.flatten := by
  induction parts with
  | nil => exact closed_nil
  | cons part rest ih =>
    obtain ⟨hpart, hrest⟩ := List.forall_mem_cons.mp h
    exact (closed_append hpart).mpr (ih hrest)

theorem closed_concat (h : c ≠ zeroWidthJoiner) : Closed (s ++ [c]) := by
  rw [Closed, CellState.after_append, CellState.after_cons, CellState.after_nil, CellState.next]
  repeat' split
  all_goals simp_all

theorem closed_of_getLast? (h : s.getLast? ≠ some zeroWidthJoiner) : Closed s := by
  obtain rfl | ⟨start, c, rfl⟩ := List.eq_nil_or_concat s
  · exact closed_nil
  · rw [List.concat_eq_append] at h ⊢
    exact closed_concat fun heq => h (by rw [List.getLast?_concat, heq])

theorem Steady.getLast?_ne (h : Steady s) : s.getLast? ≠ some zeroWidthJoiner := fun hlast =>
  (isSteady_iff.mp (h _ (List.mem_of_getLast? hlast))).1 rfl

theorem Steady.closed (h : Steady s) : Closed s := closed_of_getLast? h.getLast?_ne

/-- An anchored text takes the same cells wherever no joiner waits. -/
theorem Anchored.cellsFrom_eq {st : CellState} (h : Anchored s) (hst : st.joins = false) :
    st.cellsFrom s = cellWidth s := by
  have hnew : CellState.start.joins = false := rfl
  rw [cellWidth_eq_cellsFrom]
  induction s with
  | nil => rfl
  | cons c rest ih =>
    rw [CellState.cellsFrom, CellState.cellsFrom]
    by_cases hc : charWidth c = 0
    · obtain ⟨hsteady, hrest⟩ := anchored_cons.mp h hc
      obtain ⟨hnext, hcells⟩ := CellState.next_of_mark hst hsteady hc
      obtain ⟨hstart, hnone⟩ := CellState.next_of_mark hnew hsteady hc
      rw [hnext, hcells, hstart, hnone, ih hrest]
    · obtain ⟨hnext, hcells⟩ := CellState.next_of_wide hst hc
      obtain ⟨hstart, hsame⟩ := CellState.next_of_wide hnew hc
      rw [hnext, hcells, hstart, hsame]

theorem cellWidth_append (ha : Closed a) (hb : Anchored b) :
    cellWidth (a ++ b) = cellWidth a + cellWidth b := by
  rw [cellWidth_eq_cellsFrom, CellState.cellsFrom_append, ← cellWidth_eq_cellsFrom,
    hb.cellsFrom_eq ha]

/-- After a closed text no text takes less than by itself. -/
theorem cellWidth_add_le (ha : Closed a) : cellWidth a + cellWidth b ≤ cellWidth (a ++ b) := by
  have hafter : CellState.start.after a = ⟨false, (CellState.start.after a).widens⟩ :=
    congrArg (CellState.mk · _) ha
  rw [cellWidth_eq_cellsFrom (a ++ b), CellState.cellsFrom_append, ← cellWidth_eq_cellsFrom, hafter,
    cellWidth_eq_cellsFrom b]
  exact Nat.add_le_add_left (CellState.cellsFrom_le false _ b) _

/-- Parts that count by themselves as they do together. -/
structure Seamed (parts : List (List Char)) : Prop where
  anchored : ∀ part ∈ parts, Anchored part
  closed : ∀ part ∈ parts.dropLast, Closed part

theorem seamed_nil : Seamed [] := ⟨by simp, by simp⟩

theorem seamed_cons :
    Seamed (s :: parts) ↔ Anchored s ∧ (parts ≠ [] → Closed s) ∧ Seamed parts := by
  cases parts with
  | nil => exact ⟨fun h => ⟨h.anchored s (by simp), by simp, seamed_nil⟩, fun h => ⟨by simp [h.1], by simp⟩⟩
  | cons next more =>
    constructor
    · rintro ⟨anchored, closed⟩
      rw [List.forall_mem_cons] at anchored
      rw [List.dropLast_cons_cons, List.forall_mem_cons] at closed
      exact ⟨anchored.1, fun _ => closed.1, anchored.2, closed.2⟩
    · rintro ⟨hs, hclosed, anchored, closed⟩
      exact ⟨List.forall_mem_cons.mpr ⟨hs, anchored⟩, by
        rw [List.dropLast_cons_cons]
        exact List.forall_mem_cons.mpr ⟨hclosed (by simp), closed⟩⟩

theorem Seamed.runsWidth_eq (h : Seamed runs) : runsWidth runs = cellWidth runs.flatten := by
  induction runs with
  | nil => rfl
  | cons run rest ih =>
    obtain ⟨-, hclosed, hrest⟩ := seamed_cons.mp h
    have hmore : total (rest.map cellWidth) = cellWidth rest.flatten := ih hrest
    rw [runsWidth, List.map_cons, total, hmore, List.flatten_cons]
    cases rest with
    | nil => simp [cellWidth, widthFrom]
    | cons next more =>
      rw [cellWidth_append (hclosed (by simp)) (anchored_flatten hrest.anchored)]

/-- A text whose parts but the last are closed takes no less than its parts by themselves. -/
theorem runsWidth_le (h : ∀ run ∈ runs.dropLast, Closed run) :
    runsWidth runs ≤ cellWidth runs.flatten := by
  induction runs with
  | nil => exact Nat.le_refl _
  | cons run rest ih =>
    rw [runsWidth, List.map_cons, total, List.flatten_cons]
    cases rest with
    | nil => simp [total]
    | cons next more =>
      rw [List.dropLast_cons_cons, List.forall_mem_cons] at h
      exact (Nat.add_le_add_left (ih h.2) _).trans (cellWidth_add_le h.1)

end Seams

section Words

variable {a b s : List Char} {c : Char}

/-- A range that no other one meets covers nothing that they do. -/
theorem covers_eq_false {ranges : List (Nat × Nat)} {low high code : Nat}
    (hapart : ∀ r ∈ ranges, r.2 < low ∨ high < r.1) (hlow : low ≤ code) (hhigh : code ≤ high) :
    covers ranges code = false := by
  refine Bool.eq_false_iff.mpr fun hcovers => ?_
  obtain ⟨r, hr, hfirst, hlast⟩ := covers_iff.mp hcovers
  have := hapart r hr
  omega

theorem charWidth_eq_one (h : isSingleCell c = true) : charWidth c = 1 := by
  obtain ⟨single, hsingle, hlow, hhigh⟩ := covers_iff.mp h
  have hapart : ∀ r ∈ [(0x20, 0x7E), (0xA0, 0xAC), (0xAE, 0x2FF), (0x370, 0x482), (0x2500, 0x25FC),
      (0x2800, 0x28FF)], (0x20 ≤ r.1 ∧ r.2 < 0x7F) ∨ (0xA0 ≤ r.1 ∧
        (∀ marks ∈ zeroWidthRanges, marks.2 < r.1 ∨ r.2 < marks.1) ∧
        ∀ wide ∈ wideRanges, wide.2 < r.1 ∨ r.2 < wide.1) := by
    decide +kernel
  unfold charWidth
  obtain ⟨hfirst, hlast⟩ | ⟨hfirst, hzero, hwide⟩ := hapart single hsingle
  · have hascii : 0x20 ≤ c.toNat ∧ c.toNat < 0x7F := by omega
    simp [hascii]
  · have hascii : ¬(0x20 ≤ c.toNat ∧ c.toNat < 0x7F) := by omega
    have hcontrol : ¬c.toNat < 0xA0 := by omega
    simp [hascii, hcontrol, covers_eq_false hzero hlow hhigh, covers_eq_false hwide hlow hhigh]

theorem cellWidth_eq_length (h : ∀ c ∈ s, isSingleCell c = true) : cellWidth s = s.length := by
  have hfrom (st : CellState) (hst : st.joins = false) : st.cellsFrom s = s.length := by
    induction s generalizing st with
    | nil => rfl
    | cons c rest ih =>
      obtain ⟨hc, hrest⟩ := List.forall_mem_cons.mp h
      have hone : charWidth c = 1 := charWidth_eq_one hc
      obtain ⟨hnext, hcells⟩ := CellState.next_of_wide hst (hone ▸ Nat.one_ne_zero)
      rw [CellState.cellsFrom, hcells, hnext, ih hrest _ rfl, hone, List.length_cons, Nat.add_comm]
  rw [cellWidth_eq_cellsFrom, hfrom _ rfl]

theorem steady_of_isSingleCell (h : ∀ c ∈ s, isSingleCell c = true) : Steady s := fun c hc =>
  isSteady_of_charWidth (by simp [charWidth_eq_one (h c hc)])

theorem wordWidth_append_blank (h : visible b = []) : wordWidth (a ++ b) = wordWidth a := by
  rw [wordWidth, wordWidth, dropEndWhile_append_blank h]

theorem wordWidth_dropEndWhile (s : List Char) : wordWidth (dropEndWhile isBlank s) = wordWidth s := by
  obtain ⟨ending, hs, hblank⟩ := exists_dropEndWhile_append isBlank s
  calc wordWidth (dropEndWhile isBlank s)
    _ = wordWidth (dropEndWhile isBlank s ++ ending) :=
      (wordWidth_append_blank (visible_eq_nil_iff.mpr hblank)).symm
    _ = wordWidth s := by rw [← hs]

theorem wordWidth_append (ha : Closed a) (hb : Anchored b) (h : visible b ≠ []) :
    wordWidth (a ++ b) = cellWidth a + wordWidth b := by
  rw [wordWidth, wordWidth, dropEndWhile_append h, cellWidth_append ha (anchored_dropEndWhile hb)]

theorem wordWidth_eq_zero (h : visible s = []) : wordWidth s = 0 := by
  rw [wordWidth, dropEndWhile_eq_nil h]
  rfl

/-- A word takes no more cells than with the blanks after it. -/
theorem wordWidth_le_cellWidth (s : List Char) : wordWidth s ≤ cellWidth s := by
  obtain ⟨ending, hs, -⟩ := exists_dropEndWhile_append isBlank s
  calc wordWidth s = cellWidth (dropEndWhile isBlank s) := rfl
    _ ≤ cellWidth (dropEndWhile isBlank s ++ ending) := cellWidth_le_append _ _
    _ = cellWidth s := by rw [← hs]

end Words

section Composed

variable {a b s : List Char} {c : Char} {p : Char → Bool}

theorem splitAll_append (hc : p c = true) (a b : List Char) :
    splitAll p (a ++ c :: b) = splitAll p a ++ splitAll p b := by
  induction a with
  | nil => simp [splitAll, hc]
  | cons d rest ih =>
    rw [List.cons_append, splitAll, splitAll, ih]
    split
    · rfl
    · obtain ⟨part, parts, hparts⟩ := List.exists_cons_of_ne_nil (splitAll_ne_nil p rest)
      rw [hparts]
      rfl

theorem subset_of_mem_splitAll {part : List Char} (h : part ∈ splitAll p s) : part ⊆ s := by
  induction s generalizing part with
  | nil => simp_all [splitAll]
  | cons c rest ih =>
    rw [splitAll] at h
    split at h
    · rcases List.mem_cons.mp h with rfl | h
      · exact List.nil_subset _
      · exact List.subset_cons_of_subset c (ih h)
    · obtain ⟨first, parts, hparts⟩ := List.exists_cons_of_ne_nil (splitAll_ne_nil p rest)
      rw [hparts] at h ih
      rcases List.mem_cons.mp h with rfl | h
      · exact List.cons_subset_cons c (ih List.mem_cons_self)
      · exact List.subset_cons_of_subset c (ih (List.mem_cons_of_mem _ h))

/-- A text in whose words no joiner or selector stands before the first character that takes cells. -/
def Composed (s : List Char) : Prop := ∀ word ∈ fields s, Anchored word

instance (s : List Char) : Decidable (Composed s) := List.decidableBAll ..

/-- Blanks divide a text into texts with the words of each. -/
theorem composed_append (hc : isBlank c = true) :
    Composed (a ++ c :: b) ↔ Composed a ∧ Composed b := by
  rw [Composed, fields, splitAll_append hc, List.filter_append]
  exact List.forall_mem_append

theorem composed_nil : Composed [] := by simp [Composed, fields, splitAll]

/-- Blanks between texts leave the words of each. -/
theorem composed_intercalate (hc : isBlank c = true) {parts : List (List Char)} :
    Composed ([c].intercalate parts) ↔ ∀ part ∈ parts, Composed part := by
  induction parts with
  | nil => simp [composed_nil]
  | cons part rest ih =>
    cases rest with
    | nil => simp
    | cons next more =>
      rw [List.intercalate_cons_cons, List.append_assoc, List.forall_mem_cons, ← ih]
      exact composed_append hc

theorem Steady.composed (h : Steady s) : Composed s := fun _ hword =>
  Steady.anchored fun c hc => h c (subset_of_mem_splitAll (List.mem_filter.mp hword).1 hc)

theorem Composed.anchored (h : Composed s) : Anchored s := by
  have hparts : ∀ part ∈ splitAll isBlank s, Anchored part := by
    intro part hpart
    by_cases hempty : part = []
    · rw [hempty]
      exact anchored_nil
    · exact h part (List.mem_filter.mpr ⟨hpart, by simp [hempty]⟩)
  clear h
  induction s with
  | nil => exact anchored_nil
  | cons c rest ih =>
    rw [splitAll] at hparts
    rw [anchored_cons]
    split at hparts
    · next hc =>
      exact fun _ => ⟨isSteady_of_isBlank hc, ih (List.forall_mem_cons.mp hparts).2⟩
    · obtain ⟨part, parts, hrest⟩ := List.exists_cons_of_ne_nil (splitAll_ne_nil isBlank rest)
      rw [hrest] at hparts ih
      obtain ⟨hpart, hmore⟩ := List.forall_mem_cons.mp hparts
      intro hc
      obtain ⟨hsteady, hanchored⟩ := anchored_cons.mp hpart hc
      exact ⟨hsteady, ih (List.forall_mem_cons.mpr ⟨hanchored, hmore⟩)⟩

theorem splitAll_eq_singleton (h : ∀ c ∈ s, p c = false) : splitAll p s = [s] := by
  induction s with
  | nil => rfl
  | cons c rest ih =>
    obtain ⟨hc, hrest⟩ := List.forall_mem_cons.mp h
    rw [splitAll, ih hrest, hc]
    rfl

/-- A text without blanks is one word. -/
theorem Anchored.composed (h : Anchored s) (hs : ∀ c ∈ s, isBlank c = false) : Composed s := by
  intro word hword
  rw [fields, splitAll_eq_singleton hs] at hword
  obtain rfl := List.mem_singleton.mp (List.mem_filter.mp hword).1
  exact h

theorem Composed.concat {s : List Char} {c : Char} (h : Composed s) (hc : isSteady c = true) :
    Composed (s ++ [c]) := by
  by_cases hblank : ∃ b ∈ s ++ [c], isBlank b = true
  · -- The words up to some blank stay as they are, and what follows it is shorter.
    obtain ⟨b, hmem, hb⟩ := hblank
    rcases List.mem_append.mp hmem with hmem | hmem
    · obtain ⟨before, after, hs⟩ := List.append_of_mem hmem
      have hshorter : after.length < s.length := by
        rw [hs, List.length_append, List.length_cons]
        omega
      obtain ⟨hbefore, hafter⟩ := (composed_append hb).mp (hs ▸ h)
      rw [hs, List.append_assoc, List.cons_append]
      exact (composed_append hb).mpr ⟨hbefore, Composed.concat hafter hc⟩
    · obtain rfl := List.mem_singleton.mp hmem
      exact (composed_append hb).mpr ⟨h, composed_nil⟩
  · have hsteady : Steady [c] := List.forall_mem_singleton.mpr hc
    exact (h.anchored.append hsteady.anchored).composed fun b hb =>
      Bool.eq_false_iff.mpr fun hblank' => hblank ⟨b, hb, hblank'⟩
termination_by s.length

end Composed

end BuildLauncher.Text

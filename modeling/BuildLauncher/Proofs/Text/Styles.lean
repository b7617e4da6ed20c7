import BuildLauncher.Text.Markup

/-!
# Styles without names

A piece that is shown as it is has styles that are known or none. Wrapping makes up no other ones, so
that looking them up does not fail (`checkStyles_of_unnamed`).
-/
namespace BuildLauncher.Text

section Slices

variable {t : Styled} {good : Styled → Prop}

/-- A text that is cut is left whole or cut into slices. -/
theorem forall_mem_cut (hslice : ∀ start size, good (t.slice start size)) (h : good t)
    (sizes : List Nat) : ∀ part ∈ t.cut sizes, good part := by
  have hfrom (start : Nat) (sizes : List Nat) : ∀ part ∈ t.slicesFrom start sizes, good part := by
    induction sizes generalizing start with
    | nil => simp [Styled.slicesFrom]
    | cons size rest ih => exact List.forall_mem_cons.mpr ⟨hslice _ _, ih _⟩
  unfold Styled.cut
  split
  · exact List.forall_mem_singleton.mpr h
  · exact hfrom 0 sizes

theorem forall_mem_splitLines (hslice : ∀ start size, good (t.slice start size)) (h : good t) :
    ∀ line ∈ t.splitLines, good line := by
  have hgo (start : Nat) (sizes : List Nat) :
      ∀ line ∈ Styled.splitLines.go t start sizes, good line := by
    induction sizes generalizing start with
    | nil => simp [Styled.splitLines.go]
    | cons size rest ih => exact List.forall_mem_cons.mpr ⟨hslice _ _, ih _⟩
  unfold Styled.splitLines
  dsimp only
  split
  · exact List.forall_mem_singleton.mpr h
  · exact List.forall_mem_singleton.mpr h
  · exact hgo _ _

end Slices

/-- A text whose styles are all known, so that none has a name to look up. -/
def Unnamed (t : Styled) : Prop := ∀ span ∈ t.spans, span.style = none

variable {t : Styled} {width : Nat}

@[simp] theorem unnamed_bare (s : List Char) : Unnamed (.bare s) := by simp [Unnamed, Styled.bare]

@[simp] theorem unnamed_whole (s : List Char) : Unnamed (.whole s) := by simp [Unnamed, Styled.whole]

/-- Spans that are left of others have their styles. -/
theorem Unnamed.filterMap {keep : Span → Option Span} (h : Unnamed t) (s : List Char)
    (hkeep : ∀ span kept, keep span = some kept → kept.style = span.style) :
    Unnamed ⟨s, t.spans.filterMap keep⟩ := by
  intro kept hkept
  obtain ⟨span, hspan, heq⟩ := List.mem_filterMap.mp hkept
  rw [hkeep span kept heq, h span hspan]

theorem Unnamed.slice (h : Unnamed t) (start size : Nat) : Unnamed (t.slice start size) :=
  h.filterMap _ fun span kept hkept => by
    unfold Span.within? at hkept
    dsimp only at hkept
    split at hkept
    · rw [← Option.some.inj hkept]
    · contradiction

theorem Unnamed.withChars (h : Unnamed t) (s : List Char) : Unnamed (t.withChars s) := by
  unfold Styled.withChars
  split
  · refine h.filterMap _ fun span kept hkept => ?_
    unfold Span.upTo? at hkept
    split at hkept
    · rw [← Option.some.inj hkept]
    · contradiction
  · exact h

theorem Unnamed.cut (h : Unnamed t) (sizes : List Nat) : ∀ part ∈ t.cut sizes, Unnamed part :=
  forall_mem_cut (fun start size => h.slice start size) h sizes

theorem Unnamed.splitLines (h : Unnamed t) : ∀ line ∈ t.splitLines, Unnamed line :=
  forall_mem_splitLines (fun start size => h.slice start size) h

theorem Unnamed.append {a b : Styled} (ha : Unnamed a) (hb : Unnamed b) : Unnamed (a.append b) := by
  refine List.forall_mem_append.mpr ⟨ha, fun span hspan => ?_⟩
  obtain ⟨origin, horigin, rfl⟩ := List.mem_map.mp hspan
  exact hb origin horigin

theorem unnamed_concat {parts : List Styled} (h : ∀ part ∈ parts, Unnamed part) :
    Unnamed (.concat parts) := by
  have hfold (start : Styled) (hstart : Unnamed start) :
      Unnamed (parts.foldl Styled.append start) := by
    induction parts generalizing start with
    | nil => exact hstart
    | cons part rest ih =>
      obtain ⟨hpart, hrest⟩ := List.forall_mem_cons.mp h
      exact ih hrest _ (hstart.append hpart)
  exact hfold _ (unnamed_bare [])

theorem Unnamed.extend (h : Unnamed t) (count : Nat) : Unnamed (extend t count) := by
  intro span hspan
  obtain ⟨origin, horigin, rfl⟩ := List.mem_map.mp hspan
  split <;> exact h origin horigin

theorem unnamed_fillTabs {parts : List Styled} (h : ∀ part ∈ parts, Unnamed part) (used : Nat) :
    ∀ part ∈ fillTabs used parts, Unnamed part := by
  induction parts generalizing used with
  | nil => simp [fillTabs]
  | cons part rest ih =>
    obtain ⟨hpart, hrest⟩ := List.forall_mem_cons.mp h
    rw [fillTabs]
    split
    · have hblank : Unnamed ⟨part.chars.dropLast ++ [' '], part.spans⟩ := hpart
      exact List.forall_mem_cons.mpr ⟨hblank.extend _, ih hrest _⟩
    · exact List.forall_mem_cons.mpr ⟨hpart, ih hrest _⟩

theorem Unnamed.expandTabs (h : Unnamed t) : Unnamed (expandTabs t) := by
  unfold Text.expandTabs
  split
  · exact unnamed_concat (unnamed_fillTabs (h.cut _) 0)
  · exact h

/-- Laying a text out makes up no names of styles. -/
theorem Unnamed.layOut (h : Unnamed t) (overflow : Overflow) (width : Nat)
    {finish : Styled → Styled} (hfinish : ∀ part, Unnamed part → Unnamed (finish part)) :
    ∀ line ∈ layOut overflow width finish t, Unnamed line := by
  intro line hline
  obtain ⟨source, hsource, hline⟩ := List.mem_flatMap.mp hline
  obtain ⟨part, hpart, rfl⟩ := List.mem_map.mp hline
  have hexpanded : Unnamed (Text.expandTabs source) := (h.splitLines source hsource).expandTabs
  exact hfinish _ ((hexpanded.cut _ part hpart).withChars _)

theorem Unnamed.wrap (h : Unnamed t) (width : Nat) : ∀ line ∈ wrap width t, Unnamed line := by
  refine h.layOut .fold width fun part hpart => ?_
  unfold crop
  split
  · exact hpart.withChars _
  · exact hpart

theorem Unnamed.wrapCell (h : Unnamed t) (width : Nat) : ∀ line ∈ wrapCell width t, Unnamed line := by
  refine h.layOut .cut width fun part hpart => ?_
  unfold fitCell
  dsimp only
  split
  · exact hpart.withChars _
  · exact hpart.withChars _

/-- Styles without names are not looked up. -/
theorem checkStyles_of_unnamed (h : Unnamed t) : checkStyles t = .ok () := by
  unfold checkStyles
  unfold Unnamed at h
  generalize t.spans = spans at h ⊢
  induction spans with
  | nil => rfl
  | cons span rest ih =>
    obtain ⟨hspan, hrest⟩ := List.forall_mem_cons.mp h
    rw [List.forM, hspan]
    exact ih hrest

end BuildLauncher.Text

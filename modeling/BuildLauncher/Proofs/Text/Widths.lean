import BuildLauncher.Proofs.Text.Cells

/-!
# Fitting a text into cells

Folding a text (`flatten_chop`) and cropping one that only blanks stick out of (`visible_fitWidth`)
keep all characters but blanks. Both hold of texts whose clusters take the cells that the text takes:
no joiner or selector stands before the first character that takes cells.
-/
namespace BuildLauncher.Text

section Clusters

variable {c : Cluster} {cs : List Cluster} {s chars : List Char} {base : Option Char}

/-- A cluster that takes the cells it is said to take, also without blanks at its end. -/
structure Cluster.Measured (c : Cluster) : Prop where
  anchored : Anchored c.chars
  cells : cellWidth c.chars = c.width
  word : visible c.chars ≠ [] → wordWidth c.chars = c.width
  narrow : c.width ≤ 3

/-- The clusters of a text make it up. -/
theorem flatMap_clustersFrom (cs : List Cluster) (base : Option Char) (s : List Char) :
    (clustersFrom cs base s).reverse.flatMap Cluster.chars = cs.reverse.flatMap Cluster.chars ++ s := by
  have hextend (cs : List Cluster) (chars : List Char) (wider : Nat) :
      (extendLast cs chars wider).reverse.flatMap Cluster.chars =
        cs.reverse.flatMap Cluster.chars ++ chars := by
    cases cs <;> simp [extendLast]
  fun_induction clustersFrom cs base s <;> simp_all

@[simp] theorem flatMap_clusters (s : List Char) : (clusters s).flatMap Cluster.chars = s :=
  flatMap_clustersFrom [] none s

/-- Clusters that are measured. All but the first take cells, and all but the last are closed. -/
structure Divided (cs : List Cluster) : Prop where
  measured : ∀ c ∈ cs, c.Measured
  closed : ∀ c ∈ cs.dropLast, Closed c.chars
  positive : ∀ c ∈ cs.tail, 0 < c.width

theorem Divided.cons (h : Divided (c :: cs)) :
    c.Measured ∧ (cs ≠ [] → Closed c.chars) ∧ Divided cs := by
  obtain ⟨hc, hcs⟩ := List.forall_mem_cons.mp h.measured
  cases cs with
  | nil => exact ⟨hc, by simp, by simp, by simp, by simp⟩
  | cons next more =>
    have hclosed := h.closed
    rw [List.dropLast_cons_cons, List.forall_mem_cons] at hclosed
    exact ⟨hc, fun _ => hclosed.1, hcs, hclosed.2, fun c hc => h.positive c (List.mem_of_mem_tail hc)⟩

theorem Divided.seamed (h : Divided cs) : Seamed (cs.map Cluster.chars) where
  anchored := List.forall_mem_map.mpr fun c hc => (h.measured c hc).anchored
  closed := by
    rw [← List.map_dropLast]
    exact List.forall_mem_map.mpr h.closed

theorem Divided.anchored (h : Divided cs) : Anchored (cs.flatMap Cluster.chars) := by
  rw [List.flatMap_def]
  exact anchored_flatten h.seamed.anchored

theorem Divided.total_eq (h : Divided cs) :
    total (cs.map Cluster.width) = cellWidth (cs.flatMap Cluster.chars) := by
  have hchars : cs.map Cluster.width = (cs.map Cluster.chars).map cellWidth := by
    rw [List.map_map]
    exact List.map_congr_left fun c hc => (h.measured c hc).cells.symm
  rw [hchars, List.flatMap_def]
  exact h.seamed.runsWidth_eq

/-- The last of the clusters found so far, which come backwards. -/
def lastOf (cs : List Cluster) : Cluster := cs.headD ⟨[], 0⟩

/-- Would a selector widen the character? -/
def widens (base : Option Char) : Bool := base.any (covers emojiBaseRanges ·.toNat)

/-- Clusters are found in a text that goes on with `s`. -/
structure Finding (cs : List Cluster) (base : Option Char) (s : List Char) : Prop where
  last : (lastOf cs).Measured
  before : ∀ c ∈ cs.tail, c.Measured ∧ Closed c.chars
  positive : ∀ c ∈ cs.dropLast, 0 < c.width
  anchored : Anchored ((lastOf cs).chars ++ s)
  state : CellState.start.after (lastOf cs).chars = ⟨false, widens base⟩
  narrow : (lastOf cs).width + (widens base).toNat ≤ 3

theorem extendLast_eq {wider : Nat} (h : cs = [] → wider = 0) :
    extendLast cs chars wider =
      ⟨(lastOf cs).chars ++ chars, (lastOf cs).width + wider⟩ :: cs.tail := by
  cases cs with
  | nil => simp [extendLast, lastOf, h rfl]
  | cons last before => rfl

theorem positive_extendLast (h : ∀ c ∈ cs.dropLast, 0 < c.width) (chars : List Char) (wider : Nat) :
    ∀ c ∈ (extendLast cs chars wider).dropLast, 0 < c.width := by
  match cs, h with
  | [], _ => simp [extendLast]
  | [last], _ => simp [extendLast]
  | last :: c :: before, h =>
    obtain ⟨hlast, hbefore⟩ := List.forall_mem_cons.mp h
    exact List.forall_mem_cons.mpr ⟨Nat.add_pos_left hlast _, hbefore⟩

/-- A cluster that goes on takes what the characters take after it. -/
theorem Cluster.Measured.extend {st : CellState} {wider : Nat} (h : c.Measured)
    (hstate : CellState.start.after c.chars = st) (hanchored : Anchored (c.chars ++ chars))
    (hcells : st.cellsFrom chars = wider)
    (hword : st.cellsFrom (dropEndWhile isBlank chars) = wider) (hnarrow : c.width + wider ≤ 3) :
    Cluster.Measured ⟨c.chars ++ chars, c.width + wider⟩ := by
  have hlonger (more : List Char) : cellWidth (c.chars ++ more) = c.width + st.cellsFrom more := by
    rw [cellWidth_eq_cellsFrom, CellState.cellsFrom_append, ← cellWidth_eq_cellsFrom, h.cells, hstate]
  refine ⟨hanchored, by rw [hlonger, hcells], fun hvisible => ?_, hnarrow⟩
  by_cases hblank : visible chars = []
  · rw [visible_append, hblank, List.append_nil] at hvisible
    rw [dropEndWhile_eq_nil hblank, CellState.cellsFrom] at hword
    rw [wordWidth_append_blank hblank, h.word hvisible, ← hword, Nat.add_zero]
  · rw [wordWidth, dropEndWhile_append hblank, hlonger, hword]

/-- Characters that take no cells after a cluster take none without blanks at their end. -/
theorem cellsFrom_dropEndWhile_eq_zero {st : CellState} (h : st.cellsFrom chars = 0) :
    st.cellsFrom (dropEndWhile isBlank chars) = 0 := by
  obtain ⟨ending, hchars, -⟩ := exists_dropEndWhile_append isBlank chars
  rw [hchars, CellState.cellsFrom_append] at h
  omega

/-- Characters that take no cells go to the last cluster. -/
theorem Finding.measured_extend (h : Finding cs base (chars ++ s))
    (hcells : CellState.cellsFrom ⟨false, widens base⟩ chars = 0) :
    Cluster.Measured ⟨(lastOf cs).chars ++ chars, (lastOf cs).width + 0⟩ := by
  have hanchored := h.anchored
  rw [← List.append_assoc] at hanchored
  exact h.last.extend h.state hanchored.of_append hcells (cellsFrom_dropEndWhile_eq_zero hcells)
    h.last.narrow

theorem Finding.extend {base' : Option Char} {wider : Nat} (h : Finding cs base (chars ++ s))
    (hmeasured : Cluster.Measured ⟨(lastOf cs).chars ++ chars, (lastOf cs).width + wider⟩)
    (hempty : cs = [] → wider = 0)
    (hstate : CellState.after ⟨false, widens base⟩ chars = ⟨false, widens base'⟩)
    (hnarrow : (lastOf cs).width + wider + (widens base').toNat ≤ 3) :
    Finding (extendLast cs chars wider) base' s := by
  have hpositive := positive_extendLast h.positive chars wider
  rw [extendLast_eq hempty] at hpositive ⊢
  have hanchored := h.anchored
  rw [← List.append_assoc] at hanchored
  refine ⟨hmeasured, h.before, hpositive, hanchored, ?_, hnarrow⟩
  exact (CellState.after_append ..).trans (by rw [h.state, hstate])

/-- A character that takes cells starts a cluster. -/
theorem Finding.fresh {c : Char} (h : Finding cs base (c :: s)) (hwidth : charWidth c ≠ 0) :
    Finding (⟨[c], charWidth c⟩ :: cs) (some c) s := by
  have hcell : ∀ rest, Anchored (c :: rest) := fun rest =>
    anchored_cons.mpr fun hzero => absurd hzero hwidth
  have hstart : CellState.start.joins = false := rfl
  obtain ⟨hnext, hcells⟩ := CellState.next_of_wide hstart hwidth
  have hnarrow := charWidth_le_two c
  have hcluster : Cluster.Measured ⟨[c], charWidth c⟩ := by
    have hone : cellWidth [c] = charWidth c := by
      rw [cellWidth_eq_cellsFrom, CellState.cellsFrom, hcells]
      rfl
    refine ⟨hcell [], hone, fun hvisible => ?_, hnarrow.trans (by decide)⟩
    have hword : dropEndWhile isBlank [c] = [c] := by
      cases hblank : isBlank c with
      | true => simp [visible_cons, hblank] at hvisible
      | false => simp [dropEndWhile, hblank]
    rw [wordWidth, hword, hone]
  refine ⟨hcluster, ?_, ?_, hcell _, hnext, ?_⟩
  · cases cs with
    | nil => simp
    | cons last before =>
      exact List.forall_mem_cons.mpr ⟨⟨h.last, congrArg CellState.joins h.state⟩, h.before⟩
  · cases cs with
    | nil => simp
    | cons last before =>
      exact List.forall_mem_cons.mpr ⟨Nat.pos_of_ne_zero hwidth, h.positive⟩
  · show charWidth c + _ ≤ 3
    cases widens (some c) <;> simp <;> omega

theorem divided_reverse (hlast : (lastOf cs).Measured)
    (hbefore : ∀ c ∈ cs.tail, c.Measured ∧ Closed c.chars) (hpositive : ∀ c ∈ cs.dropLast, 0 < c.width) :
    Divided cs.reverse where
  measured := by
    cases cs with
    | nil => simp
    | cons last before =>
      simp only [List.mem_reverse]
      exact List.forall_mem_cons.mpr ⟨hlast, fun c hc => (hbefore c hc).1⟩
  closed := by
    simp only [List.dropLast_reverse, List.mem_reverse]
    exact fun c hc => (hbefore c hc).2
  positive := by
    simpa only [List.tail_reverse, List.mem_reverse] using hpositive

/-- A mark leaves the count as it is: no selector stands where it would widen, and none before the
first character that takes cells. -/
theorem Finding.next_of_mark {c : Char} (h : Finding cs base (c :: s))
    (hjoiner : c = zeroWidthJoiner → cs = [])
    (hselector : c = emojiSelector → cs = [] ∨ widens base = false) (hwidth : charWidth c = 0) :
    CellState.next ⟨false, widens base⟩ c = ⟨false, widens base⟩ ∧
      CellState.cells ⟨false, widens base⟩ c = 0 := by
  by_cases hsteady : isSteady c = true
  · exact CellState.next_of_mark rfl hsteady hwidth
  · have hne : cs ≠ [] := by
      rintro rfl
      exact hsteady (anchored_cons.mp h.anchored hwidth).1
    have hother : c ≠ zeroWidthJoiner := fun heq => hne (hjoiner heq)
    have hc : c = emojiSelector := by
      by_contra hc
      exact hsteady (isSteady_iff.mpr ⟨hother, hc⟩)
    have hnarrow : widens base = false := (hselector hc).resolve_left hne
    rw [hnarrow, hc]
    decide

/-- A mark that widens nothing goes to the last cluster. -/
theorem Finding.marked {c : Char} (h : Finding cs base (c :: s))
    (hjoiner : c = zeroWidthJoiner → cs = [])
    (hselector : c = emojiSelector → cs = [] ∨ widens base = false) (hwidth : charWidth c = 0) :
    Finding (extendLast cs [c] 0) base s := by
  obtain ⟨hnext, hcells⟩ := h.next_of_mark hjoiner hselector hwidth
  have hnone : CellState.cellsFrom ⟨false, widens base⟩ [c] = 0 := hcells
  have h : Finding cs base ([c] ++ s) := h
  exact h.extend (h.measured_extend hnone) (fun _ => rfl) hnext h.narrow

/-- A joiner draws the character after it in, and neither takes cells. -/
theorem Finding.joined {joined : Char} (h : Finding cs base (zeroWidthJoiner :: joined :: s)) :
    Finding (extendLast cs [zeroWidthJoiner, joined] 0) base s := by
  have hne : zeroWidthJoiner ≠ emojiSelector := by decide
  have hcells : CellState.cellsFrom ⟨false, widens base⟩ [zeroWidthJoiner, joined] = 0 := by
    simp [CellState.cellsFrom, CellState.cells, CellState.next, charWidth_joiner, hne]
  have hstate : CellState.after ⟨false, widens base⟩ [zeroWidthJoiner, joined] =
      ⟨false, widens base⟩ := by
    simp [CellState.next]
  have h : Finding cs base ([zeroWidthJoiner, joined] ++ s) := h
  exact h.extend (h.measured_extend hcells) (fun _ => rfl) hstate h.narrow

/-- A selector widens the last character that took cells, and only once. -/
theorem Finding.selected (h : Finding cs base (emojiSelector :: s)) (hne : cs ≠ [])
    (hwidens : widens base = true) : Finding (extendLast cs [emojiSelector] 1) none s := by
  have h : Finding cs base ([emojiSelector] ++ s) := h
  have hnarrow : (lastOf cs).width + 1 ≤ 3 := by simpa [hwidens] using h.narrow
  have hcells : CellState.cellsFrom ⟨false, widens base⟩ [emojiSelector] = 1 := by
    rw [hwidens]
    decide
  have hword : dropEndWhile isBlank [emojiSelector] = [emojiSelector] := by decide
  have hanchored : Anchored ((lastOf cs).chars ++ [emojiSelector]) := by
    have hanchored := h.anchored
    rw [← List.append_assoc] at hanchored
    exact hanchored.of_append
  have hstate : CellState.after ⟨false, widens base⟩ [emojiSelector] = ⟨false, widens none⟩ := by
    rw [hwidens]
    decide
  exact h.extend (h.last.extend h.state hanchored hcells (hword ▸ hcells) hnarrow)
    (fun hnil => absurd hnil hne) hstate hnarrow

/-- A joiner at the end draws nothing in. -/
theorem Finding.divided_joiner (h : Finding cs base [zeroWidthJoiner]) :
    Divided (extendLast cs [zeroWidthJoiner] 0).reverse := by
  have hcells : CellState.cellsFrom ⟨false, widens base⟩ [zeroWidthJoiner] = 0 := charWidth_joiner
  have h : Finding cs base ([zeroWidthJoiner] ++ []) := h
  have hpositive := positive_extendLast h.positive [zeroWidthJoiner] 0
  rw [extendLast_eq fun _ => rfl] at hpositive ⊢
  exact divided_reverse (h.measured_extend hcells) h.before hpositive

/-- The clusters that are found are measured. -/
theorem Finding.divided (h : Finding cs base s) : Divided (clustersFrom cs base s).reverse := by
  fun_induction clustersFrom cs base s with
  | case1 cs base => exact divided_reverse h.last h.before h.positive
  | case2 cs base c hjoiner =>
    obtain ⟨rfl, -⟩ : c = zeroWidthJoiner ∧ cs ≠ [] := by simpa using hjoiner
    exact h.divided_joiner
  | case3 cs base c hjoiner joined rest ih =>
    obtain ⟨rfl, -⟩ : c = zeroWidthJoiner ∧ cs ≠ [] := by simpa using hjoiner
    exact ih h.joined
  | case4 cs base c rest hjoiner hselector ih =>
    obtain ⟨⟨rfl, hne⟩, hwidens⟩ : (c = emojiSelector ∧ cs ≠ []) ∧ widens base = true := by
      simpa [widens] using hselector
    exact ih (h.selected hne hwidens)
  | case5 cs base c rest hjoiner hselector hmark ih =>
    have hwidth : charWidth c = 0 := by
      have hmark : (c = zeroWidthJoiner ∨ c = emojiSelector) ∨ charWidth c = 0 := by
        simpa using hmark
      obtain (rfl | rfl) | hwidth := hmark
      · exact charWidth_joiner
      · exact charWidth_selector
      · exact hwidth
    have hnarrow : c = emojiSelector → cs = [] ∨ widens base = false := fun hc => by
      simpa [hc, widens, or_iff_not_imp_left] using hselector
    exact ih (h.marked (by simpa using hjoiner) hnarrow hwidth)
  | case6 cs base c rest hjoiner hselector hmark ih =>
    have hwidth : charWidth c ≠ 0 := by
      have hmark : ¬((c = zeroWidthJoiner ∨ c = emojiSelector) ∨ charWidth c = 0) := by
        simpa using hmark
      exact fun hzero => hmark (.inr hzero)
    exact ih (h.fresh hwidth)

theorem divided_clusters (h : Anchored s) : Divided (clusters s) := by
  have hempty : Cluster.Measured ⟨[], 0⟩ := ⟨anchored_nil, rfl, by simp, by simp⟩
  exact Finding.divided ⟨hempty, by simp, by simp, h, rfl, by decide⟩

end Clusters

section Folding

variable {s line : List Char} {cs : List Cluster} {width used : Nat}

/-- Folding at cluster boundaries: the pieces make up the text, and each of them fits. -/
theorem chopClusters_pieces (hwidth : 3 ≤ width) (hline : Anchored line)
    (hclosed : cs ≠ [] → Closed line) (hused : cellWidth line = used) (hfits : used ≤ width)
    (hcs : Divided cs) (hsome : 0 < used + total (cs.map Cluster.width)) :
    (chopClusters width line used cs).flatten = line ++ cs.flatMap Cluster.chars ∧
      (∀ piece ∈ chopClusters width line used cs, cellWidth piece ≤ width) ∧
      Seamed (chopClusters width line used cs) := by
  induction cs generalizing line used with
  | nil =>
    have hne : used ≠ 0 := by simpa [total, Nat.pos_iff_ne_zero] using hsome
    simp [chopClusters, hne, hused, hfits, seamed_cons, hline, seamed_nil]
  | cons c rest ih =>
    obtain ⟨hc, hcClosed, hrest⟩ := hcs.cons
    have hlineClosed : Closed line := hclosed (List.cons_ne_nil _ _)
    simp only [List.map_cons, total] at hsome
    have hnarrow := hc.narrow
    rw [chopClusters]
    split
    · obtain ⟨hflat, hpieces, hseamed⟩ :=
        ih hc.anchored hcClosed hc.cells (by omega) hrest (by omega)
      refine ⟨by rw [List.flatten_cons, hflat, List.flatMap_cons], ?_, ?_⟩
      · exact List.forall_mem_cons.mpr ⟨hused ▸ hfits, hpieces⟩
      · exact seamed_cons.mpr ⟨hline, fun _ => hlineClosed, hseamed⟩
    · have hlonger : cellWidth (line ++ c.chars) = used + c.width := by
        rw [cellWidth_append hlineClosed hc.anchored, hused, hc.cells]
      obtain ⟨hflat, hpieces⟩ := ih (hline.append hc.anchored)
        (fun hne => (closed_append hlineClosed).mpr (hcClosed hne)) hlonger (by omega) hrest (by omega)
      exact ⟨by rw [hflat, List.flatMap_cons, List.append_assoc], hpieces⟩

theorem flatten_piecesOf (hsize : 0 < width) (s : List Char) : (piecesOf width s).flatten = s := by
  fun_induction piecesOf width s with
  | case1 s h ih => rw [List.flatten_cons, ih, List.take_append_drop]
  | case2 s h => simp_all

theorem length_of_mem_piecesOf (s : List Char) : ∀ piece ∈ piecesOf width s, piece.length ≤ width := by
  fun_induction piecesOf width s with
  | case1 s h ih => exact List.forall_mem_cons.mpr ⟨List.length_take_le .., ih⟩
  | case2 s h => simp

/-- The pieces of a folded text make it up. -/
theorem flatten_chop (hwidth : 3 ≤ width) (hs : Anchored s) (hsome : 0 < cellWidth s) :
    (chop width s).flatten = s ∧ (∀ piece ∈ chop width s, cellWidth piece ≤ width) ∧
      Seamed (chop width s) := by
  unfold chop
  split
  · next hsingle =>
    have hflat : (piecesOf width s).flatten = s := flatten_piecesOf (by omega) s
    have hcells : ∀ piece ∈ piecesOf width s, ∀ c ∈ piece, isSingleCell c = true :=
      fun piece hpiece c hc =>
        List.all_eq_true.mp hsingle c (hflat ▸ List.mem_flatten.mpr ⟨piece, hpiece, hc⟩)
    have hsteady : ∀ piece ∈ piecesOf width s, Steady piece := fun piece hpiece =>
      steady_of_isSingleCell (hcells piece hpiece)
    refine ⟨hflat, fun piece hpiece => ?_, fun piece hpiece => (hsteady piece hpiece).anchored,
      fun piece hpiece => (hsteady piece (List.dropLast_subset _ hpiece)).closed⟩
    rw [cellWidth_eq_length (hcells piece hpiece)]
    exact length_of_mem_piecesOf s piece hpiece
  · have hdivided := divided_clusters hs
    have hcells : total ((clusters s).map Cluster.width) = cellWidth s := by
      rw [hdivided.total_eq, flatMap_clusters]
    have hnone : cellWidth [] = 0 := rfl
    obtain ⟨hflat, hpieces⟩ := chopClusters_pieces hwidth anchored_nil (fun _ => closed_nil) hnone
      (Nat.zero_le _) hdivided (by omega)
    exact ⟨by rw [hflat, flatMap_clusters, List.nil_append], hpieces⟩

end Folding

section Cropping

variable {s : List Char} {cs : List Cluster} {width : Nat}

theorem visible_cropClusters_of_blank (h : visible (cs.flatMap Cluster.chars) = []) (width : Nat) :
    visible (cropClusters width cs) = [] := by
  induction cs generalizing width with
  | nil => rfl
  | cons c rest ih =>
    rw [List.flatMap_cons, visible_append, List.append_eq_nil_iff] at h
    rw [cropClusters]
    repeat' split
    · rfl
    · rw [visible_append, h.1, ih h.2]
      rfl
    · rfl
    · rfl

/-- If only blanks stick out of the width, only blanks are cropped. -/
theorem visible_cropClusters (hcs : Divided cs) (hnone : width = 0 → ∀ c ∈ cs, 0 < c.width)
    (hfits : wordWidth (cs.flatMap Cluster.chars) ≤ width) :
    visible (cropClusters width cs) = visible (cs.flatMap Cluster.chars) := by
  induction cs generalizing width with
  | nil => rfl
  | cons c rest ih =>
    obtain ⟨hc, hclosed, hrest⟩ := hcs.cons
    have hne (h : c.width ≤ width) : width ≠ 0 := fun hzero => by
      have := hnone hzero c (by simp)
      omega
    rw [List.flatMap_cons] at hfits ⊢
    by_cases hmore : visible (rest.flatMap Cluster.chars) = []
    · by_cases hvisible : visible c.chars = []
      · have hblank : visible ((c :: rest).flatMap Cluster.chars) = [] := by simp [hvisible, hmore]
        rw [visible_cropClusters_of_blank hblank, visible_append, hvisible, hmore]
        rfl
      · rw [wordWidth_append_blank hmore, hc.word hvisible] at hfits
        simp only [cropClusters, hfits, hne hfits, if_true, if_false, visible_append, hmore,
          visible_cropClusters_of_blank hmore]
    · have hsome : rest ≠ [] := by
        rintro rfl
        exact hmore rfl
      rw [wordWidth_append (hclosed hsome) hrest.anchored hmore, hc.cells] at hfits
      have hroom : c.width ≤ width := by omega
      have hinside := ih hrest (fun _ => hcs.positive) (Nat.le_sub_of_add_le' hfits)
      simp only [cropClusters, hroom, hne hroom, if_true, if_false, visible_append, hinside]

/-- Of the clusters a beginning is left, perhaps with a blank for the first one that is not. -/
theorem cropClusters_cases (width : Nat) (cs : List Cluster) : ∃ kept rest, cs = kept ++ rest ∧
    total (kept.map Cluster.width) ≤ width ∧
    (cropClusters width cs = kept.flatMap Cluster.chars ∨
      total (kept.map Cluster.width) < width ∧ (∃ c more, rest = c :: more ∧ 0 < c.width) ∧
        cropClusters width cs = kept.flatMap Cluster.chars ++ [' ']) := by
  induction cs generalizing width with
  | nil => exact ⟨[], [], rfl, Nat.zero_le _, .inl rfl⟩
  | cons c rest ih =>
    rw [cropClusters]
    split
    · split
      · exact ⟨[], c :: rest, rfl, Nat.zero_le _, .inl rfl⟩
      · next hroom _ =>
        obtain ⟨kept, left, hrest, htotal, hcases⟩ := ih (width - c.width)
        have hmore : total ((c :: kept).map Cluster.width) =
            c.width + total (kept.map Cluster.width) := rfl
        refine ⟨c :: kept, left, by rw [hrest, List.cons_append], by omega, ?_⟩
        obtain hcrop | ⟨hless, hleft, hcrop⟩ := hcases
        · exact .inl (by rw [hcrop, List.flatMap_cons])
        · exact .inr ⟨by omega, hleft, by rw [hcrop, List.flatMap_cons, List.append_assoc]⟩
    · split
      · exact ⟨[], c :: rest, rfl, Nat.zero_le _, .inl rfl⟩
      · exact ⟨[], c :: rest, rfl, Nat.zero_le _, .inr ⟨by simp only [List.map_nil, total]; omega,
          ⟨c, rest, rfl, by omega⟩, rfl⟩⟩

theorem Divided.of_append {rest : List Cluster} (h : Divided (cs ++ rest)) : Divided cs where
  measured c hc := h.measured c (List.mem_append_left _ hc)
  closed c hc := by
    cases rest with
    | nil => exact h.closed c (by rwa [List.append_nil])
    | cons next more =>
      refine h.closed c ?_
      rw [List.dropLast_append_cons]
      exact List.mem_append_left _ (List.dropLast_subset _ hc)
  positive c hc := by
    cases cs with
    | nil => simp at hc
    | cons first more => exact h.positive c (List.mem_append_left _ hc)

/-- Of a text that is too wide a beginning is left, perhaps with a blank. -/
theorem fitWidth_cases (hs : Anchored s) (hwide : width < cellWidth s) :
    ∃ kept rest, s = kept ++ rest ∧ cellWidth kept ≤ width ∧ (fitWidth width s = kept ∨
      cellWidth kept < width ∧ rest ≠ [] ∧ fitWidth width s = kept ++ [' ']) := by
  unfold fitWidth
  split
  · next hsingle =>
    have hlength : cellWidth s = s.length := cellWidth_eq_length (List.all_eq_true.mp hsingle)
    have htake : cellWidth (s.take width) = (s.take width).length :=
      cellWidth_eq_length fun c hc => List.all_eq_true.mp hsingle c (List.mem_of_mem_take hc)
    have hnone : width - s.length = 0 := by omega
    refine ⟨s.take width, s.drop width, (List.take_append_drop ..).symm, ?_, .inl ?_⟩
    · exact htake ▸ List.length_take_le ..
    · rw [hnone, List.replicate_zero, List.append_nil]
  · rw [if_neg (by omega)]
    obtain ⟨kept, rest, hclusters, htotal, hcases⟩ := cropClusters_cases width (clusters s)
    have hdivided : Divided (kept ++ rest) := hclusters ▸ divided_clusters hs
    have htext : s = kept.flatMap Cluster.chars ++ rest.flatMap Cluster.chars := by
      rw [← List.flatMap_append, ← hclusters, flatMap_clusters]
    have hcells : cellWidth (kept.flatMap Cluster.chars) = total (kept.map Cluster.width) :=
      hdivided.of_append.total_eq.symm
    refine ⟨_, _, htext, hcells ▸ htotal, ?_⟩
    obtain hcrop | ⟨hless, ⟨c, more, rfl, hpositive⟩, hcrop⟩ := hcases
    · exact .inl hcrop
    · refine .inr ⟨hcells ▸ hless, fun hnil => ?_, hcrop⟩
      have hc := hdivided.measured c (by simp)
      rw [List.flatMap_cons, List.append_eq_nil_iff] at hnil
      rw [← hc.cells, hnil.1] at hpositive
      exact absurd hpositive (Nat.lt_irrefl 0)

/-- A text that is too wide takes at most the width once it is cropped. -/
theorem cellWidth_fitWidth_le (hs : Anchored s) (hwide : width < cellWidth s) :
    cellWidth (fitWidth width s) ≤ width := by
  obtain ⟨kept, rest, -, hfits, hcrop | ⟨hless, -, hcrop⟩⟩ := fitWidth_cases hs hwide
  · exact hcrop ▸ hfits
  · have hblank (st : CellState) : st.cellsFrom [' '] ≤ 1 := by
      have hone : charWidth ' ' = 1 := by decide
      simp only [CellState.cellsFrom, CellState.cells, hone]
      split <;> simp [(by decide : ' ' ≠ emojiSelector)]
    rw [hcrop, cellWidth_eq_cellsFrom, CellState.cellsFrom_append, ← cellWidth_eq_cellsFrom]
    have := hblank (CellState.start.after kept)
    omega

/-- A text that only blanks stick out of loses nothing else when it is cropped. -/
theorem visible_fitWidth (hwidth : 0 < width) (hs : Anchored s) (hfits : wordWidth s ≤ width) :
    visible (fitWidth width s) = visible s := by
  unfold fitWidth
  split
  · next hsingle =>
    obtain ⟨ending, hending, hblank⟩ := exists_dropEndWhile_append isBlank s
    have hword : (dropEndWhile isBlank s).length ≤ width := by
      rw [← cellWidth_eq_length fun c hc => List.all_eq_true.mp hsingle c
        (hending ▸ List.mem_append_left _ hc)]
      exact hfits
    have hrest : visible (ending.take (width - (dropEndWhile isBlank s).length)) = [] :=
      visible_eq_nil_iff.mpr fun c hc => hblank c (List.mem_of_mem_take hc)
    have htake : visible (s.take width) = visible s := by
      rw [hending, List.take_append, List.take_of_length_le hword, visible_append, hrest,
        visible_append, visible_eq_nil_iff.mpr hblank]
    rw [visible_append, visible_replicate_blank, List.append_nil, htake]
  · split
    · rw [visible_append, visible_replicate_blank, List.append_nil]
    · rw [visible_cropClusters (divided_clusters hs) (fun hzero => by omega)
        (by rw [flatMap_clusters]; exact hfits), flatMap_clusters]

end Cropping

end BuildLauncher.Text

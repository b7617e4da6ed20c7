import BuildLauncher.Text.LowerCase
import Mathlib.Data.List.Basic

/-!
# Names in lower case

A text that has been put in lower case holds no capital letters of ASCII. Such a text is spelled like
a plain name, without regard to case, only if it is that name.
-/
namespace BuildLauncher.Text

/-- A capital letter of ASCII. -/
def IsCapital (c : Char) : Prop := 0x41 ≤ c.toNat ∧ c.toNat ≤ 0x5A

/-- A character of plain names: one of ASCII, no capital and not the null character. The letter k is
left out, which is also the lower case of the sign for kelvin. -/
def IsPlain (c : Char) : Prop := 0 < c.toNat ∧ c.toNat < 0x80 ∧ c ≠ 'k' ∧ ¬IsCapital c

instance (c : Char) : Decidable (IsCapital c) := inferInstanceAs (Decidable (_ ∧ _))
instance (c : Char) : Decidable (IsPlain c) := inferInstanceAs (Decidable (_ ∧ _))

theorem toNat_ofNat_eq_or (n : Nat) : (Char.ofNat n).toNat = n ∨ (Char.ofNat n).toNat = 0 := by
  unfold Char.ofNat
  by_cases h : n.isValidChar
  · rw [dif_pos h]
    exact .inl rfl
  · rw [dif_neg h]
    exact .inr rfl

theorem toNat_toLower (c : Char) :
    c.toLower.toNat = if IsCapital c then c.toNat + 0x20 else c.toNat := by
  have hcap : (c.val ≥ 'A'.val ∧ c.val ≤ 'Z'.val) ↔ IsCapital c := Iff.rfl
  unfold Char.toLower
  by_cases h : IsCapital c
  · rw [dif_pos (hcap.mpr h), if_pos h]
    have hle : c.val.toNat ≤ 0x5A := h.2
    have hstep : ('a'.val - 'A'.val).toNat = 0x20 := by decide
    simp only [Char.toNat, UInt32.toNat_add, hstep]
    omega
  · rw [dif_neg (mt hcap.mp h), if_neg h]

theorem toLower_of_not_isCapital {c : Char} (h : ¬IsCapital c) : c.toLower = c :=
  Char.toNat_inj.mp (by rw [toNat_toLower, if_neg h])

theorem not_isCapital_toLower (c : Char) : ¬IsCapital c.toLower := by
  rw [IsCapital, toNat_toLower]
  split
  · rename_i h
    have := h.1
    omega
  · assumption

/-- The lower case of capitals beyond ASCII lies beyond ASCII as well, but for one sign. -/
theorem caseRanges_beyond : ∀ r ∈ caseRanges,
    0x80 ≤ r.first + r.offset ∨ r.first = r.last ∧ r.first + r.offset = 'k'.toNat := by
  decide +kernel

theorem CaseRange.beyond_of_covers {r : CaseRange} (hr : r ∈ caseRanges) {code : Nat}
    (h : r.covers code = true) :
    0x80 ≤ (code + r.offset).toNat ∨ (code + r.offset).toNat = 'k'.toNat := by
  simp only [CaseRange.covers, Bool.and_eq_true, decide_eq_true_eq] at h
  obtain ⟨⟨hfirst, hlast⟩, -⟩ := h
  rcases caseRanges_beyond r hr with hr | ⟨heq, hr⟩
  · exact .inl (by omega)
  · exact .inr (by omega)

theorem lowerChar_ascii {c : Char} (h : c.toNat < 0x80) : lowerChar c = [c.toLower] := by
  rw [lowerChar, if_pos h]

/-- A character beyond ASCII has no capital in its lower case, and something that is not plain. -/
theorem lowerChar_beyond {c : Char} (h : 0x80 ≤ c.toNat) :
    (∀ d ∈ lowerChar c, ¬IsCapital d) ∧ ∃ d ∈ lowerChar c, ¬IsPlain d := by
  rw [lowerChar, if_neg (by omega)]
  split
  · exact ⟨List.forall_mem_cons.mpr ⟨by decide, List.forall_mem_singleton.mpr (by decide)⟩,
      _, List.mem_cons_of_mem _ (List.mem_singleton_self _), by decide⟩
  · split
    · rename_i r hr
      have hbeyond := CaseRange.beyond_of_covers (List.mem_of_find?_eq_some hr)
        (List.find?_some (p := fun r : CaseRange => r.covers c.toNat) hr)
      generalize (c.toNat + r.offset).toNat = n at hbeyond
      have hn := toNat_ofNat_eq_or n
      refine ⟨fun d hd => ?_, _, List.mem_singleton_self _, fun hplain => ?_⟩
      · obtain rfl := List.mem_singleton.mp hd
        rintro ⟨hlow, hhigh⟩
        have hk : 'k'.toNat = 0x6B := rfl
        omega
      · obtain ⟨hpos, hascii, hk, -⟩ := hplain
        rcases hbeyond with hb | hb
        · omega
        · exact hk (hb ▸ rfl)
    · refine ⟨fun d hd => ?_, c, List.mem_singleton_self c, fun hplain => ?_⟩
      · obtain rfl := List.mem_singleton.mp hd
        intro hcap
        have := hcap.2
        omega
      · have := hplain.2.1
        omega

/-- The lower case of a text begins with that of its first character, or with a final sigma. -/
theorem lowerFrom_cons (before : List Char) (c : Char) (rest : List Char) :
    lowerFrom before (c :: rest) = lowerChar c ++ lowerFrom (c :: before) rest ∨
      lowerFrom before (c :: rest) = Char.ofNat 0x3C2 :: lowerFrom (c :: before) rest := by
  simp only [lowerFrom]
  split
  · exact .inr rfl
  · exact .inl rfl

theorem not_isCapital_of_mem_lowerFrom {before s : List Char} {d : Char}
    (h : d ∈ lowerFrom before s) : ¬IsCapital d := by
  induction s generalizing before with
  | nil => simp [lowerFrom] at h
  | cons c rest ih =>
    rcases lowerFrom_cons before c rest with hc | hc
    · rw [hc, List.mem_append] at h
      rcases h with h | h
      · by_cases hascii : c.toNat < 0x80
        · rw [lowerChar_ascii hascii, List.mem_singleton] at h
          exact h ▸ not_isCapital_toLower c
        · exact (lowerChar_beyond (by omega)).1 d h
      · exact ih h
    · rw [hc, List.mem_cons] at h
      rcases h with rfl | h
      · decide
      · exact ih h

/-- A text without capitals whose lower case is a plain name is that name. -/
theorem eq_of_lowerFrom_eq {before s name : List Char} (hs : ∀ c ∈ s, ¬IsCapital c)
    (hname : ∀ c ∈ name, IsPlain c) (h : lowerFrom before s = name) : s = name := by
  induction s generalizing before name with
  | nil => simpa [lowerFrom] using h
  | cons c rest ih =>
    have hrest : ∀ d ∈ rest, ¬IsCapital d := fun d hd => hs d (List.mem_cons_of_mem c hd)
    rcases lowerFrom_cons before c rest with hc | hc
    · rw [hc] at h
      by_cases hascii : c.toNat < 0x80
      · rw [lowerChar_ascii hascii, toLower_of_not_isCapital (hs c List.mem_cons_self)] at h
        subst h
        rw [List.singleton_append] at hname ⊢
        rw [← ih hrest (fun d hd => hname d (List.mem_cons_of_mem c hd)) rfl]
      · obtain ⟨-, d, hd, hplain⟩ := lowerChar_beyond (c := c) (by omega)
        exact absurd (hname d (h ▸ List.mem_append_left _ hd)) hplain
    · rw [hc] at h
      exact absurd (hname _ (h ▸ List.mem_cons_self)) (by decide)

/-- Plain names are in lower case. -/
theorem lowerFrom_plain {before name : List Char} (hname : ∀ c ∈ name, IsPlain c) :
    lowerFrom before name = name := by
  induction name generalizing before with
  | nil => rfl
  | cons c rest ih =>
    have hc : IsPlain c := hname c List.mem_cons_self
    have hsigma : ¬(c.toNat = 0x3A3) := by
      have := hc.2.1
      omega
    simp only [lowerFrom, hsigma, decide_false, Bool.false_and, Bool.false_eq_true, if_false,
      lowerChar_ascii hc.2.1, toLower_of_not_isCapital hc.2.2.2,
      ih fun d hd => hname d (List.mem_cons_of_mem c hd)]
    rfl

/-- A name without capitals is spelled like a plain name only if it is that name. -/
theorem lower_eq_lower_iff {s name : String} (hs : ∀ c ∈ s.toList, ¬IsCapital c)
    (hname : ∀ c ∈ name.toList, IsPlain c) : lower s = lower name ↔ s = name := by
  refine ⟨fun h => ?_, fun h => h ▸ rfl⟩
  simp only [lower, String.ofList_inj, lowerFrom_plain hname] at h
  exact String.toList_inj.mp (eq_of_lowerFrom_eq hs hname h)

end BuildLauncher.Text

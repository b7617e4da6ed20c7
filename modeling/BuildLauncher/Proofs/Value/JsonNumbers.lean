import Mathlib.Data.List.TakeWhile
import BuildLauncher.Proofs.Number.Numerals
import BuildLauncher.Proofs.Number.Shortest
import BuildLauncher.Value.JsonReader

/-!
# Numbers in JSON texts

An integer is read back as itself (`readNumber_toString`), and the text of a finite number as that
number, in whatever format it is written (`readNumber_text`).
-/
namespace BuildLauncher.Json

open Binary64

section Endings

/-- The characters that may follow a value: blanks and the marks that end it. -/
def terminators : List Char := [' ', '\t', '\n', '\r', ',', ']', '\x7d']

/-- What may follow a value. -/
def Ends (rest : List Char) : Prop := ∀ c ∈ rest.head?, c ∈ terminators

/-- What ends a run of digits. -/
def EndsDigits (rest : List Char) : Prop := ∀ c ∈ rest.head?, isDigit c = false

variable {s rest : List Char}

theorem ends_cons {c : Char} (h : c ∈ terminators) : Ends (c :: rest) := by
  intro d hd
  obtain rfl : c = d := by simpa using hd
  exact h

theorem endsDigits_cons {c : Char} (h : isDigit c = false) : EndsDigits (c :: rest) := by
  intro d hd
  obtain rfl : c = d := by simpa using hd
  exact h

/-- A mark is no digit. -/
theorem ne_of_isDigit {marks : List Char} (hmarks : marks.any isDigit = false) {c : Char}
    (hc : isDigit c = true) : c ∉ marks :=
  fun hmark => List.any_eq_false.mp hmarks c hmark hc

theorem Ends.endsDigits (h : Ends rest) : EndsDigits rest := by
  intro c hc
  have hmarks : terminators.any isDigit = false := by decide
  by_contra hdigit
  exact ne_of_isDigit hmarks (Bool.eq_true_of_not_eq_false hdigit) (h c hc)

theorem Ends.head?_ne (h : Ends rest) {c : Char} (hc : c ∉ terminators) : rest.head? ≠ some c :=
  fun hhead => hc (h c hhead)

theorem takeWhile_digits (hs : ∀ c ∈ s, isDigit c = true) (hrest : EndsDigits rest) :
    (s ++ rest).takeWhile isDigit = s ∧ (s ++ rest).dropWhile isDigit = rest := by
  rw [List.takeWhile_append_of_pos hs, List.dropWhile_append_of_pos hs]
  cases rest with
  | nil => simp
  | cons c more =>
    have hc : isDigit c = false := hrest c rfl
    simp [hc]

end Endings

section Parts

variable {part power rest : List Char}

theorem readFraction_point (hdigits : ∀ c ∈ part, isDigit c = true) (hpart : part ≠ [])
    (hrest : EndsDigits rest) : readFraction ('.' :: (part ++ rest)) = (part, rest) := by
  obtain ⟨htake, hdrop⟩ := takeWhile_digits hdigits hrest
  simp [readFraction, htake, hdrop, hpart]

theorem readFraction_none (h : rest.head? ≠ some '.') : readFraction rest = ([], rest) := by
  unfold readFraction
  split
  · simp at h
  · rfl

theorem readExponent_none (he : rest.head? ≠ some 'e') (hE : rest.head? ≠ some 'E') :
    readExponent rest = (none, rest) := by
  cases rest with
  | nil => rfl
  | cons c more =>
    have hc : c ≠ 'e' ∧ c ≠ 'E' := by simpa using And.intro he hE
    simp [readExponent, hc]

/-- The marks before the digits of an exponent. -/
def exponentMarks (negative : Bool) : List (List Char) := if negative then [['-']] else [['+'], []]

theorem readExponent_power {negative : Bool} {mark : List Char} (hmark : mark ∈ exponentMarks negative)
    (hdigits : ∀ c ∈ power, isDigit c = true) (hpower : power ≠ []) (hrest : EndsDigits rest) :
    readExponent ('e' :: (mark ++ (power ++ rest))) =
      (some (signed negative (ofDigits 10 power)), rest) := by
  obtain ⟨htake, hdrop⟩ := takeWhile_digits hdigits hrest
  cases negative with
  | true =>
    obtain rfl : mark = ['-'] := by simpa [exponentMarks] using hmark
    simp [readExponent, htake, hdrop, hpower]
  | false =>
    obtain rfl | rfl : mark = ['+'] ∨ mark = [] := by simpa [exponentMarks] using hmark
    · simp [readExponent, htake, hdrop, hpower]
    · obtain ⟨c, others, rfl⟩ := List.exists_cons_of_ne_nil hpower
      have hc : isDigit c = true := hdigits c (by simp)
      have hminus : c ≠ '-' := by
        rintro rfl
        contradiction
      have hplus : c ≠ '+' := by
        rintro rfl
        contradiction
      rw [List.cons_append] at htake hdrop
      simp [readExponent, hminus, hplus, htake, hdrop]

end Parts

/-- Digits that write a whole number: without a zero in front, but for zero itself. -/
structure IsWhole (s : List Char) : Prop where
  digits : ∀ c ∈ s, isDigit c = true
  ne_nil : s ≠ []
  zero : s.head? = some '0' → s = ['0']

/-- The sign before the digits of a number. -/
def minus (negative : Bool) : List Char := if negative then ['-'] else []

section Numbers

variable {limit : Option Nat} {negative : Bool} {whole part rest : List Char}

theorem IsWhole.exists_cons (h : IsWhole whole) : ∃ c more, whole = c :: more ∧ isDigit c = true := by
  obtain ⟨c, more, rfl⟩ := List.exists_cons_of_ne_nil h.ne_nil
  exact ⟨c, more, rfl, h.digits c (by simp)⟩

/-- A number is read part by part after its whole digits. -/
theorem readNumber_whole (limit : Option Nat) (negative : Bool) (hwhole : IsWhole whole)
    (hrest : EndsDigits rest) : readNumber limit (minus negative ++ (whole ++ rest)) =
      let (part, rest) := readFraction rest
      let (exponent, rest) := readExponent rest
      if part.isEmpty && exponent.isNone then
        if limit.any (· < whole.length) then none
        else some (.int (signed negative (ofDigits 10 whole)), rest)
      else some (.float (Numeral.toBinary64 ⟨negative, whole, part, exponent.getD 0⟩), rest) := by
  obtain ⟨c, more, hcons, hc⟩ := hwhole.exists_cons
  have hminus : c ≠ '-' := by
    rintro rfl
    contradiction
  have hsign : readSign (minus negative ++ (whole ++ rest)) = (negative, whole ++ rest) := by
    cases negative with
    | true => rfl
    | false => simp [readSign, minus, hcons, hminus]
  have hdigits : wholeDigits (whole ++ rest) = whole := by
    by_cases hzero : c = '0'
    · subst hzero
      have heq : whole = ['0'] := hwhole.zero (by rw [hcons]; rfl)
      rw [heq]
      rfl
    · obtain ⟨htake, -⟩ := takeWhile_digits hwhole.digits hrest
      rw [hcons] at htake ⊢
      simpa [wholeDigits, hzero] using htake
  have hempty : whole.isEmpty = false := by simp [hcons]
  unfold readNumber
  rw [hsign]
  dsimp only
  rw [hdigits, hempty, if_neg (by decide), List.drop_left]

theorem readNumber_int (hwhole : IsWhole whole) (hlimit : ∀ most ∈ limit, whole.length ≤ most)
    (hrest : Ends rest) : readNumber limit (minus negative ++ (whole ++ rest)) =
      some (.int (signed negative (ofDigits 10 whole)), rest) := by
  have hshort : limit.any (· < whole.length) = false := by
    cases limit with
    | none => rfl
    | some most => simpa using hlimit most rfl
  rw [readNumber_whole limit negative hwhole hrest.endsDigits,
    readFraction_none (hrest.head?_ne (by decide))]
  dsimp only
  rw [readExponent_none (hrest.head?_ne (by decide)) (hrest.head?_ne (by decide))]
  simp [hshort]

theorem readNumber_point (limit : Option Nat) (negative : Bool) (hwhole : IsWhole whole)
    (hdigits : ∀ c ∈ part, isDigit c = true) (hpart : part ≠ []) (hrest : Ends rest) :
    readNumber limit (minus negative ++ (whole ++ '.' :: (part ++ rest))) =
      some (.float (Numeral.toBinary64 ⟨negative, whole, part, 0⟩), rest) := by
  rw [readNumber_whole limit negative hwhole (endsDigits_cons (by decide)),
    readFraction_point hdigits hpart hrest.endsDigits]
  dsimp only
  rw [readExponent_none (hrest.head?_ne (by decide)) (hrest.head?_ne (by decide))]
  simp [hpart]

/-- A number with an exponent, which may have no point. -/
theorem readNumber_power (limit : Option Nat) (negative : Bool) {below : Bool} {mark power : List Char}
    (hwhole : IsWhole whole) (hdigits : ∀ c ∈ part, isDigit c = true)
    (hmark : mark ∈ exponentMarks below) (hpowers : ∀ c ∈ power, isDigit c = true)
    (hpower : power ≠ []) (hrest : Ends rest) :
    readNumber limit (minus negative ++ (whole ++ ((if part.isEmpty then [] else '.' :: part) ++
        'e' :: (mark ++ (power ++ rest))))) =
      some (.float (Numeral.toBinary64
        ⟨negative, whole, part, signed below (ofDigits 10 power)⟩), rest) := by
  have hexponent := readExponent_power hmark hpowers hpower hrest.endsDigits
  by_cases hpart : part = []
  · subst hpart
    rw [List.isEmpty_nil, if_pos rfl, List.nil_append,
      readNumber_whole limit negative hwhole (endsDigits_cons (by decide)),
      readFraction_none (by simp)]
    dsimp only
    rw [hexponent]
    simp
  · have hempty : part.isEmpty = false := by simpa using hpart
    rw [hempty, if_neg (by decide), List.cons_append,
      readNumber_whole limit negative hwhole (endsDigits_cons (by decide)),
      readFraction_point hdigits hpart (endsDigits_cons (by decide))]
    dsimp only
    rw [hexponent]
    simp

end Numbers

section Integers

variable {limit : Option Nat} {rest : List Char}

theorem isWhole_toDigits (n : Nat) : IsWhole (Nat.toDigits 10 n) where
  digits := isDigitOf_of_mem_toDigits (by decide) (by decide) n
  ne_nil := Nat.toDigits_ne_nil
  zero := by
    intro hhead
    have hn : n = 0 := by
      by_contra hne
      exact head?_toDigits_ne_zero hne hhead
    rw [hn]
    rfl

theorem toList_toString (n : Int) :
    (toString n).toList = minus (n < 0) ++ Nat.toDigits 10 n.natAbs := by
  cases n with
  | ofNat n =>
    change (Nat.repr n).toList = _
    rw [Nat.toList_repr]
    rfl
  | negSucc n =>
    change ("-" ++ Nat.repr (n + 1)).toList = _
    rw [String.toList_append, Nat.toList_repr, Int.natAbs_negSucc]
    have hneg : decide (Int.negSucc n < 0) = true := decide_eq_true (Int.negSucc_lt_zero n)
    rw [hneg]
    rfl

/-- An integer is read back as itself, if it is not too long for the reader. -/
theorem readNumber_toString {n : Int}
    (hlimit : ∀ most ∈ limit, (Nat.toDigits 10 n.natAbs).length ≤ most) (hrest : Ends rest) :
    readNumber limit ((toString n).toList ++ rest) = some (.int n, rest) := by
  rw [toList_toString, List.append_assoc, readNumber_int (isWhole_toDigits _) hlimit hrest,
    ofDigits_toDigits (by decide) (by decide), signed_natAbs]

end Integers

section Floats

variable {d : Decimal} {s : List Char}

/-- Zeros after digits multiply by ten. -/
theorem ofDigits_append_zeros (s : List Char) (j : Nat) :
    ofDigits 10 (s ++ List.replicate j '0') = ofDigits 10 s * 10 ^ j := by
  rw [ofDigits_append, ofDigits_zeros, Nat.add_zero, List.length_replicate, Nat.pow_eq]

/-- Digits without the zeros at their end. -/
def withoutEndZeros (s : List Char) : List Char := (s.reverse.dropWhile (· == '0')).reverse

theorem exists_zeros (s : List Char) : ∃ j, s = withoutEndZeros s ++ List.replicate j '0' := by
  have hzeros : ∀ c ∈ s.reverse.takeWhile (· == '0'), c = '0' := by
    intro c hc
    simpa using List.mem_takeWhile_imp hc
  refine ⟨(s.reverse.takeWhile (· == '0')).length, ?_⟩
  have hsplit : s = (s.reverse.takeWhile (· == '0') ++ s.reverse.dropWhile (· == '0')).reverse := by
    rw [List.takeWhile_append_dropWhile, List.reverse_reverse]
  rw [List.reverse_append] at hsplit
  nth_rewrite 1 [hsplit]
  rw [List.eq_replicate_of_mem hzeros, List.reverse_replicate, List.length_replicate]
  rfl

/-- The digits that a decimal shows. -/
structure Shows (d : Decimal) (s : List Char) : Prop where
  digits : ∀ c ∈ s, isDigit c = true
  ne_nil : s ≠ []
  head : s.head? ≠ some '0'
  zeros : ∃ j, Nat.toDigits 10 d.digits = s ++ List.replicate j '0'

theorem shows_withoutEndZeros (h : d.digits ≠ 0) : Shows d (withoutEndZeros (Nat.toDigits 10 d.digits)) := by
  obtain ⟨j, hj⟩ := exists_zeros (Nat.toDigits 10 d.digits)
  have hhead := head?_toDigits_ne_zero h
  have hdigits : ∀ c ∈ Nat.toDigits 10 d.digits, isDigit c = true :=
    isDigitOf_of_mem_toDigits (by decide) (by decide) _
  generalize withoutEndZeros (Nat.toDigits 10 d.digits) = s at hj ⊢
  have hne : s ≠ [] := by
    rintro rfl
    rw [List.nil_append] at hj
    cases j with
    | zero => exact Nat.toDigits_ne_nil hj
    | succ j => exact hhead (by rw [hj]; rfl)
  refine ⟨fun c hc => hdigits c (by rw [hj]; simp [hc]), hne, ?_, j, hj⟩
  obtain ⟨c, more, rfl⟩ := List.exists_cons_of_ne_nil hne
  rwa [hj] at hhead

/-- A decimal is read by the digits that it shows and the power of ten of the last of them. -/
theorem Shows.ofDecimal_eq (h : Shows d s) (negative : Bool) :
    ofDecimal negative d.digits d.exponent = ofDecimal negative (ofDigits 10 s)
      (d.exponent + (Nat.toDigits 10 d.digits).length - s.length) := by
  obtain ⟨j, hj⟩ := h.zeros
  have hvalue : d.digits = ofDigits 10 s * 10 ^ j := by
    rw [← ofDigits_append_zeros, ← hj, ofDigits_toDigits (by decide) (by decide)]
  have hlength : d.exponent + (Nat.toDigits 10 d.digits).length - s.length = d.exponent + j := by
    rw [hj, List.length_append, List.length_replicate]
    push_cast
    ring
  rw [hlength, ← ofDecimal_mul_pow, ← hvalue]

variable {negative : Bool} {rest : List Char}

theorem isDigit_zeros (j : Nat) : ∀ c ∈ List.replicate j '0', isDigit c = true := by
  intro c hc
  rw [(List.mem_replicate.mp hc).2]
  rfl

theorem isWhole_zero : IsWhole ['0'] := by simpa using isWhole_toDigits 0

theorem Shows.isWhole (h : Shows d s) {count : Nat} (hcount : 0 < count) (j : Nat) :
    IsWhole (s.take count ++ List.replicate j '0') := by
  have hhead := h.head
  obtain ⟨c, more, rfl⟩ := List.exists_cons_of_ne_nil h.ne_nil
  obtain ⟨k, rfl⟩ := Nat.exists_eq_succ_of_ne_zero hcount.ne'
  refine ⟨?_, by simp, fun hzero => absurd hzero hhead⟩
  intro e he
  obtain he | he := List.mem_append.mp he
  · exact h.digits e (List.mem_of_mem_take he)
  · exact isDigit_zeros j e he

/-- A small number is read digit by digit after the zeros behind its point. -/
theorem readNumber_small (limit : Option Nat) (negative : Bool) (h : Shows d s) (zeros : Nat)
    (hlead : d.exponent + (Nat.toDigits 10 d.digits).length = -zeros) (hrest : Ends rest) :
    readNumber limit (minus negative ++ (['0'] ++ '.' :: ((List.replicate zeros '0' ++ s) ++ rest))) =
      some (.float (ofDecimal negative d.digits d.exponent), rest) := by
  have hdigits : ∀ c ∈ List.replicate zeros '0' ++ s, isDigit c = true := by
    intro c hc
    obtain hc | hc := List.mem_append.mp hc
    · exact isDigit_zeros zeros c hc
    · exact h.digits c hc
  have hpart : List.replicate zeros '0' ++ s ≠ [] := by simp [h.ne_nil]
  have hvalue : ofDigits 10 (['0'] ++ (List.replicate zeros '0' ++ s)) = ofDigits 10 s := by
    rw [← List.append_assoc]
    exact ofDigits_zeros_append (zeros + 1) s
  have hexponent : (0 : Int) - (List.replicate zeros '0' ++ s).length =
      d.exponent + (Nat.toDigits 10 d.digits).length - s.length := by
    rw [List.length_append, List.length_replicate]
    push_cast
    omega
  rw [readNumber_point limit negative isWhole_zero hdigits hpart hrest, Numeral.toBinary64,
    h.ofDecimal_eq negative, hvalue, hexponent]

/-- A number with its point in full: zeros fill what its digits leave before the point, and a zero
stands behind a point at the end. -/
theorem readNumber_full (limit : Option Nat) (negative : Bool) (h : Shows d s) {point : Nat}
    (hpoint : 0 < point) (hlead : d.exponent + (Nat.toDigits 10 d.digits).length = point)
    (hrest : Ends rest) :
    readNumber limit (minus negative ++ ((s.take point ++ List.replicate (point - s.length) '0') ++
        '.' :: ((if (s.drop point).isEmpty then ['0'] else s.drop point) ++ rest))) =
      some (.float (ofDecimal negative d.digits d.exponent), rest) := by
  have hwhole := h.isWhole hpoint (point - s.length)
  by_cases hshort : s.length ≤ point
  · have htake : s.take point = s := List.take_of_length_le hshort
    have hempty : (s.drop point).isEmpty = true := by simpa using hshort
    have hvalue : ofDigits 10 ((s ++ List.replicate (point - s.length) '0') ++ ['0']) =
        ofDigits 10 s * 10 ^ (point - s.length + 1) := by
      rw [List.append_assoc, ← ofDigits_append_zeros, List.replicate_succ']
    have hexponent : (0 : Int) - (['0'] : List Char).length + (point - s.length + 1 : Nat) =
        d.exponent + (Nat.toDigits 10 d.digits).length - s.length := by
      rw [hlead]
      simp only [List.length_singleton]
      omega
    rw [htake] at hwhole ⊢
    rw [if_pos hempty, readNumber_point limit negative hwhole isWhole_zero.digits (by decide) hrest,
      Numeral.toBinary64, h.ofDecimal_eq negative, hvalue, ofDecimal_mul_pow, hexponent]
  · have hpart : s.drop point ≠ [] := by simpa using hshort
    have hempty : ¬(s.drop point).isEmpty = true := by simpa using hshort
    have hnone : point - s.length = 0 := by omega
    have hdigits : ∀ c ∈ s.drop point, isDigit c = true :=
      fun c hc => h.digits c (List.mem_of_mem_drop hc)
    have hexponent : (0 : Int) - (s.drop point).length =
        d.exponent + (Nat.toDigits 10 d.digits).length - s.length := by
      rw [hlead, List.length_drop]
      omega
    rw [if_neg hempty, readNumber_point limit negative hwhole hdigits hpart hrest,
      Numeral.toBinary64, h.ofDecimal_eq negative, hnone, List.replicate_zero, List.append_nil,
      List.take_append_drop, hexponent]

/-- A number with one digit before its point and a power of ten. -/
theorem readNumber_scaled (limit : Option Nat) (negative : Bool) (h : Shows d s) {lead : Int}
    (hlead : d.exponent + (Nat.toDigits 10 d.digits).length - 1 = lead) {mark power : List Char}
    (hmark : mark ∈ exponentMarks (lead < 0)) (hpowers : ∀ c ∈ power, isDigit c = true)
    (hpower : power ≠ []) (hvalue : ofDigits 10 power = lead.natAbs) (hrest : Ends rest) :
    readNumber limit (minus negative ++ (s.take 1 ++ ((if (s.drop 1).isEmpty then [] else
        '.' :: s.drop 1) ++ 'e' :: (mark ++ (power ++ rest))))) =
      some (.float (ofDecimal negative d.digits d.exponent), rest) := by
  have hwhole : IsWhole (s.take 1) := by simpa using h.isWhole Nat.one_pos 0
  have hdigits : ∀ c ∈ s.drop 1, isDigit c = true := fun c hc => h.digits c (List.mem_of_mem_drop hc)
  have hexponent : lead - (s.drop 1).length =
      d.exponent + (Nat.toDigits 10 d.digits).length - s.length := by
    have hlength : 0 < s.length := List.length_pos_of_ne_nil h.ne_nil
    rw [← hlead, List.length_drop]
    omega
  rw [readNumber_power limit negative hwhole hdigits hmark hpowers hpower hrest,
    Numeral.toBinary64, h.ofDecimal_eq negative, hvalue, signed_natAbs,
    List.take_append_drop, hexponent]

theorem isDigit_padLeft {width n : Nat} :
    ∀ c ∈ padLeft width '0' (Nat.toDigits 10 n), isDigit c = true := by
  intro c hc
  obtain hc | hc := List.mem_append.mp hc
  · exact isDigit_zeros _ c hc
  · exact isDigitOf_of_mem_toDigits (by decide) (by decide) n c hc

/-- A decimal is read back from its text, which of the three ways it is written in. -/
theorem readNumber_unsigned (limit : Option Nat) (negative : Bool) (f : NumberFormat)
    (hd : d.digits ≠ 0) (hrest : Ends rest) :
    readNumber limit (minus negative ++ (f.unsigned d ++ rest)) =
      some (.float (ofDecimal negative d.digits d.exponent), rest) := by
  have hshows := shows_withoutEndZeros hd
  unfold NumberFormat.unsigned
  dsimp only
  change Shows d ((Nat.toDigits 10 d.digits).reverse.dropWhile (· == '0')).reverse at hshows
  generalize ((Nat.toDigits 10 d.digits).reverse.dropWhile (· == '0')).reverse = s at hshows ⊢
  generalize hlead : d.exponent + (Nat.toDigits 10 d.digits).length - 1 = lead
  by_cases hfull : (decide (f.fullFrom ≤ lead) && decide (lead < f.fullBelow)) = true
  · rw [if_pos hfull]
    by_cases hsmall : lead < 0
    · have hzeros : d.exponent + (Nat.toDigits 10 d.digits).length = -((-lead - 1).toNat : Int) := by
        omega
      have hread := readNumber_small limit negative hshows (-lead - 1).toNat hzeros hrest
      have hstart : "0.".toList = ['0', '.'] := rfl
      rw [if_pos hsmall, hstart]
      simpa only [List.append_assoc, List.cons_append, List.nil_append] using hread
    · have hpoint : d.exponent + (Nat.toDigits 10 d.digits).length =
          ((lead.toNat + 1 : Nat) : Int) := by
        omega
      have hread := readNumber_full limit negative hshows (Nat.succ_pos _) hpoint hrest
      rw [if_neg hsmall]
      simpa only [List.append_assoc, List.cons_append] using hread
  · have hmark : (if lead < 0 then ['-'] else if f.exponentPlus = true then ['+'] else []) ∈
        exponentMarks (lead < 0) := by
      by_cases hbelow : lead < 0
      · simp [hbelow, exponentMarks]
      · cases f.exponentPlus <;> simp [hbelow, exponentMarks]
    have hpower : padLeft f.exponentDigits '0' (Nat.toDigits 10 lead.natAbs) ≠ [] := by
      simp [padLeft, Nat.toDigits_ne_nil]
    have hvalue : ofDigits 10 (padLeft f.exponentDigits '0' (Nat.toDigits 10 lead.natAbs)) =
        lead.natAbs := by
      rw [padLeft, ofDigits_zeros_append, ofDigits_toDigits (by decide) (by decide)]
    have hread := readNumber_scaled limit negative hshows hlead hmark isDigit_padLeft hpower hvalue hrest
    rw [if_neg hfull]
    simpa only [List.append_assoc, List.cons_append] using hread

/-- A finite number is read back from its text, in whatever format it is written. -/
theorem readNumber_text (limit : Option Nat) (f : NumberFormat) (x : Finite) (hrest : Ends rest) :
    readNumber limit ((f.text (.finite x)).toList ++ rest) = some (.float (.finite x), rest) := by
  have htext : (f.text (.finite x)).toList =
      minus x.negative ++ (if x.isZero then "0.0".toList else f.unsigned x.shortest) :=
    String.toList_ofList
  rw [htext, List.append_assoc]
  cases hzero : x.isZero with
  | true =>
    have hvalue : Numeral.toBinary64 ⟨x.negative, ['0'], ['0'], 0⟩ = .finite x := by
      have hdigits : ofDigits 10 (['0'] ++ ['0']) = 0 := by decide
      rw [Numeral.toBinary64, hdigits, ofDecimal, if_pos rfl, zero_eq hzero]
    have hread := readNumber_point limit x.negative isWhole_zero isWhole_zero.digits (by decide) hrest
    have hstart : "0.0".toList = ['0', '.', '0'] := rfl
    rw [hvalue] at hread
    rw [if_pos rfl, hstart]
    exact hread
  | false =>
    have hread := readNumber_unsigned limit x.negative f (digits_shortest_ne_zero hzero) hrest
    rw [ofDecimal_shortest hzero] at hread
    rw [if_neg (by decide)]
    exact hread

end Floats

end BuildLauncher.Json

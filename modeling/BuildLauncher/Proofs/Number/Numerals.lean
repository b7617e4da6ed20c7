import BuildLauncher.Number.Decimal
import BuildLauncher.Number.Digits

/-!
# Characters of numbers

The digits of a number are read as the number (`ofDigits_toDigits`). A number is written with digits,
signs, a point and an exponent, or as one of the words of its format (`mem_text`).
-/
namespace BuildLauncher

section Digits

variable {base n : Nat} {s : List Char}

theorem digitValue?_digitChar (h : n < 16) : digitValue? n.digitChar = some n := by
  have hall : ∀ n < 16, digitValue? n.digitChar = some n := by decide
  exact hall n h

theorem ofDigits_toDigits (hbase : 1 < base) (hmost : base ≤ 16) (n : Nat) :
    ofDigits base (Nat.toDigits base n) = n := by
  have hsingle (d : Nat) (h : d < base) : ofDigits base [d.digitChar] = d := by
    simp [ofDigits, digitValue?_digitChar (Nat.lt_of_lt_of_le h hmost)]
  induction n using Nat.strongRecOn with
  | _ n ih =>
    rw [Nat.toDigits_eq_if hbase]
    split
    · exact hsingle n (by omega)
    · have hsmaller : n / base < n := Nat.div_lt_self (by omega) hbase
      have hlast : n % base < base := Nat.mod_lt n (by omega)
      have hone : Nat.pow base [(n % base).digitChar].length = base := Nat.pow_one base
      rw [ofDigits_append, ih (n / base) hsmaller, hsingle _ hlast, hone, Nat.mul_comm]
      exact Nat.div_add_mod n base

theorem isDigitOf_of_mem_toDigits (hbase : 1 < base) (hmost : base ≤ 16) (n : Nat) :
    ∀ c ∈ Nat.toDigits base n, isDigitOf base c = true := by
  have hdigit (d : Nat) (h : d < base) : isDigitOf base d.digitChar = true := by
    simp [isDigitOf, digitValue?_digitChar (Nat.lt_of_lt_of_le h hmost), h]
  induction n using Nat.strongRecOn with
  | _ n ih =>
    intro c hc
    rw [Nat.toDigits_eq_if hbase] at hc
    split at hc
    · rw [List.mem_singleton.mp hc]
      exact hdigit n (by omega)
    · obtain hc | hc := List.mem_append.mp hc
      · exact ih (n / base) (Nat.div_lt_self (by omega) hbase) c hc
      · rw [List.mem_singleton.mp hc]
        exact hdigit _ (Nat.mod_lt n (by omega))

/-- The first digit of a number other than zero is no zero. -/
theorem head?_toDigits_ne_zero (h : n ≠ 0) : (Nat.toDigits 10 n).head? ≠ some '0' := by
  induction n using Nat.strongRecOn with
  | _ n ih =>
    rw [Nat.toDigits_eq_if (by decide)]
    split
    · simpa using h
    · have hhead := ih (n / 10) (Nat.div_lt_self (by omega) (by decide)) (by omega)
      obtain ⟨c, rest, hdigits⟩ := List.exists_cons_of_ne_nil (Nat.toDigits_ne_nil (n := n / 10) (b := 10))
      rwa [hdigits] at hhead ⊢

theorem ofDigits_zeros (j : Nat) : ofDigits base (List.replicate j '0') = 0 := by
  induction j with
  | zero => rfl
  | succ j ih =>
    have hzero : ofDigits base ['0'] = 0 := by simp [ofDigits, digitValue?]
    rw [List.replicate_succ', ofDigits_append, ih, Nat.zero_mul, hzero]

/-- Zeros before digits count for nothing. -/
theorem ofDigits_zeros_append (j : Nat) (s : List Char) :
    ofDigits base (List.replicate j '0' ++ s) = ofDigits base s := by
  rw [ofDigits_append, ofDigits_zeros, Nat.zero_mul, Nat.zero_add]

/-- A sign and a size make an integer. -/
theorem signed_natAbs (n : Int) : signed (n < 0) n.natAbs = n := by
  unfold signed
  by_cases hneg : n < 0
  · simp only [hneg, decide_true, if_true]
    omega
  · simp only [hneg, decide_false, Bool.false_eq_true, if_false]
    omega

end Digits

/-- The characters that write numbers in a base of at most sixteen. -/
def numerals : List Char := "0123456789abcdef.+-".toList

variable {base : Nat}

theorem toDigits_subset (hbase : 1 < base) (hmost : base ≤ 16) (n : Nat) :
    Nat.toDigits base n ⊆ numerals := by
  have hdigit : ∀ n < 16, Nat.digitChar n ∈ numerals := by decide
  induction n using Nat.strongRecOn with
  | _ n ih =>
    intro c hc
    rw [Nat.toDigits_eq_if hbase] at hc
    split at hc
    · rw [List.mem_singleton.mp hc]
      exact hdigit n (by omega)
    · obtain hc | hc := List.mem_append.mp hc
      · exact ih (n / base) (Nat.div_lt_self (by omega) hbase) hc
      · rw [List.mem_singleton.mp hc]
        have hlast : n % base < base := Nat.mod_lt n (by omega)
        exact hdigit _ (by omega)

theorem toString_subset (n : Int) : (toString n).toList ⊆ numerals := by
  have hdigits (n : Nat) : (Nat.repr n).toList ⊆ numerals := by
    rw [Nat.toList_repr]
    exact toDigits_subset (by decide) (by decide) n
  cases n with
  | ofNat n => exact hdigits n
  | negSucc n =>
    have hsign : "-".toList ⊆ numerals := by decide
    change ("-" ++ Nat.repr (n + 1)).toList ⊆ numerals
    rw [String.toList_append]
    exact List.append_subset.mpr ⟨hsign, hdigits (n + 1)⟩

namespace Binary64

theorem unsigned_subset (f : NumberFormat) (d : Decimal) : f.unsigned d ⊆ numerals := by
  have hdigits (n : Nat) : Nat.toDigits 10 n ⊆ numerals :=
    toDigits_subset (by decide) (by decide) n
  have htrimmed : ((Nat.toDigits 10 d.digits).reverse.dropWhile (· == '0')).reverse ⊆ numerals :=
    fun c hc => hdigits _ (List.mem_reverse.mp
      ((List.dropWhile_suffix _).subset (List.mem_reverse.mp hc)))
  have hzero (n : Nat) : List.replicate n '0' ⊆ numerals := by
    intro c hc
    rw [(List.mem_replicate.mp hc).2]
    decide
  have hpoint : '.' ∈ numerals := by decide
  have hpower : 'e' ∈ numerals := by decide
  unfold NumberFormat.unsigned
  dsimp only
  generalize ((Nat.toDigits 10 d.digits).reverse.dropWhile (· == '0')).reverse = trimmed at htrimmed ⊢
  have htake (n : Nat) : trimmed.take n ⊆ numerals := fun c hc => htrimmed (List.mem_of_mem_take hc)
  have hdrop (n : Nat) : trimmed.drop n ⊆ numerals := fun c hc => htrimmed (List.mem_of_mem_drop hc)
  have hpart (n : Nat) : (if (trimmed.drop n).isEmpty then ['0'] else trimmed.drop n) ⊆ numerals := by
    split
    · exact hzero 1
    · exact hdrop n
  split
  · split
    · have hstart : "0.".toList ⊆ numerals := by decide
      simp only [List.append_subset]
      exact ⟨⟨hstart, hzero _⟩, htrimmed⟩
    · simp only [List.append_subset, List.cons_subset]
      exact ⟨⟨htake _, hzero _⟩, hpoint, hpart _⟩
  · simp only [List.append_subset, List.cons_subset, padLeft]
    refine ⟨⟨htake _, ?_⟩, hpower, ?_, hzero _, hdigits _⟩
    · split
      · exact List.nil_subset _
      · exact List.cons_subset.mpr ⟨hpoint, hdrop _⟩
    · repeat' split
      all_goals decide

/-- A number that is not finite is written as one of the words of its format. -/
theorem mem_text (f : NumberFormat) (x : Binary64) : ∀ c ∈ (f.text x).toList,
    c ∈ numerals ∨ c ∈ f.notANumber.toList ∨ c ∈ f.infinite.toList ∨
      c ∈ f.negativeInfinite.toList := by
  intro c hc
  cases x with
  | notANumber => exact .inr (.inl hc)
  | infinite negative =>
    cases negative with
    | false => exact .inr (.inr (.inl hc))
    | true => exact .inr (.inr (.inr hc))
  | finite x =>
    left
    rw [NumberFormat.text, String.toList_ofList] at hc
    obtain hsign | hbody := List.mem_append.mp hc
    · split at hsign
      · rw [List.mem_singleton.mp hsign]
        decide
      · contradiction
    · split at hbody
      · have hzero : "0.0".toList ⊆ numerals := by decide
        exact hzero hbody
      · exact unsigned_subset _ _ hbody

end Binary64
end BuildLauncher

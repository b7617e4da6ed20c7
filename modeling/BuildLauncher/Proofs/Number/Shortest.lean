import Mathlib.Algebra.Order.Field.Power
import Mathlib.Tactic.NormNum
import BuildLauncher.Number.Decimal
import BuildLauncher.Proofs.Number.Rounding

/-!
# Shortest decimals

The nearest decimal of seventeen digits is near enough to a number to be read as it, so every number
but zero has a shortest decimal, and it reads back (`ofDecimal_shortest`).
-/
namespace BuildLauncher.Binary64

section Powers

theorem digits_lt_pow (n : Nat) : n < 10 ^ (Nat.toDigits 10 n).length :=
  (Nat.length_toDigits_le_iff (by decide) Nat.length_toDigits_pos).mp (Nat.le_refl _)

theorem pow_le_digits {n : Nat} (hn : n ≠ 0) : 10 ^ ((Nat.toDigits 10 n).length - 1) ≤ n := by
  by_contra hlt
  rw [Nat.not_le] at hlt
  have hlength : 0 < (Nat.toDigits 10 n).length := Nat.length_toDigits_pos
  by_cases hone : (Nat.toDigits 10 n).length = 1
  · rw [hone] at hlt
    omega
  · have hle := (Nat.length_toDigits_le_iff (by decide) (by omega)).mpr hlt
    omega

/-- The power of ten of a leading digit. -/
theorem zpow_lead_le {n : Nat} (hn : n ≠ 0) :
    (10 : ℚ) ^ ((Nat.toDigits 10 n).length - 1 : ℤ) ≤ n := by
  have hlength : 0 < (Nat.toDigits 10 n).length := Nat.length_toDigits_pos
  have hexp : ((Nat.toDigits 10 n).length - 1 : ℤ) = ((Nat.toDigits 10 n).length - 1 : ℕ) := by omega
  rw [hexp, zpow_natCast]
  exact_mod_cast pow_le_digits hn

theorem lt_zpow_length (n : Nat) : (n : ℚ) < 10 ^ ((Nat.toDigits 10 n).length : ℤ) := by
  rw [zpow_natCast]
  exact_mod_cast digits_lt_pow n

theorem zpow_toNat {e : ℤ} (he : 0 ≤ e) : (10 : ℚ) ^ e = ((Nat.pow 10 e.toNat : ℕ) : ℚ) := by
  obtain ⟨k, rfl⟩ := Int.eq_ofNat_of_zero_le he
  rw [Int.toNat_natCast, zpow_natCast, Nat.pow_eq]
  push_cast
  rfl

/-- A decimal as the ratio that it is read as. -/
theorem mul_zpow_eq {n : Nat} {e : ℤ} : (n * (10 : ℚ) ^ e) =
    if 0 ≤ e then ((n * Nat.pow 10 e.toNat : ℕ) : ℚ) / (1 : ℕ)
    else n / (Nat.pow 10 (-e).toNat : ℕ) := by
  split_ifs with he
  · rw [zpow_toNat he]
    push_cast
    ring
  · rw [← zpow_toNat (by omega : 0 ≤ -e), zpow_neg, div_inv_eq_mul]

/-- Zeros at the end multiply by powers of ten. -/
theorem toDigits_mul_pow {n : Nat} (hn : n ≠ 0) (j : Nat) :
    Nat.toDigits 10 (n * 10 ^ j) = Nat.toDigits 10 n ++ List.replicate j '0' := by
  induction j with
  | zero => simp
  | succ j ih =>
    have hpositive : 0 < n * 10 ^ j := Nat.mul_pos (Nat.pos_of_ne_zero hn) (Nat.pow_pos (by decide))
    have hnext : n * 10 ^ (j + 1) = 10 * (n * 10 ^ j) + 0 := by
      rw [Nat.pow_succ]
      ring
    rw [hnext, ← Nat.toDigits_append_toDigits (by decide) hpositive (by decide), ih,
      List.append_assoc, List.replicate_succ']
    rfl

end Powers

section Reading

variable {x : Finite} {digits : Nat} {exponent : ℤ}

theorem cast_resolution : (resolution : ℚ) = 2 ^ 1074 := by
  have hpower (k : Nat) : ((Nat.pow 2 k : ℕ) : ℚ) = 2 ^ k := Nat.cast_pow 2 k
  unfold resolution
  apply hpower

theorem Finite.size_lt (x : Finite) : x.size < 2 ^ 1024 := by
  have hscale : (2 : ℚ) ^ x.scale ≤ 2 ^ 2045 := pow_le_pow_right₀ (by norm_num) x.scale_le
  have hsignificand : (x.significand : ℚ) < 2 ^ 53 := by exact_mod_cast x.significand_lt
  have hparts : (x.parts : ℚ) < 2 ^ 53 * 2 ^ 2045 := by
    unfold Finite.parts
    push_cast
    exact mul_lt_mul hsignificand hscale (by positivity) (by positivity)
  have hsplit : (2 : ℚ) ^ 53 * 2 ^ 2045 = 2 ^ 1024 * 2 ^ 1074 := by
    rw [← pow_add, ← pow_add]
  rw [Finite.size, cast_resolution, div_lt_iff₀ (by positivity), ← hsplit]
  exact hparts

theorem Finite.le_size (h : 0 < x.size) : 1 / 2 ^ 1074 ≤ x.size := by
  have hparts : 1 ≤ x.parts := by
    by_contra hzero
    have hnone : x.parts = 0 := by omega
    rw [Finite.size, hnone, Nat.cast_zero, zero_div] at h
    exact lt_irrefl 0 h
  rw [Finite.size, cast_resolution]
  have hcast : (1 : ℚ) ≤ x.parts := by exact_mod_cast hparts
  gcongr

/-- What is near to a finite number has few enough places to be read digit by digit. -/
theorem places_bounds (hdigits : digits ≠ 0) (hlow : x.size / 2 < digits * (10 : ℚ) ^ exponent)
    (hhigh : digits * (10 : ℚ) ^ exponent < 2 * x.size) :
    (Nat.toDigits 10 digits).length + exponent ≤ 400 ∧
      -400 ≤ (Nat.toDigits 10 digits).length + exponent := by
  have hpower : (0 : ℚ) < 10 ^ exponent := by positivity
  have hsize : 0 < x.size := by linarith
  have hten : (1 : ℚ) < 10 := by norm_num
  have hbound : (2 : ℚ) ^ 1200 < 10 ^ (400 : ℤ) := calc
    (2 : ℚ) ^ 1200 = (2 ^ 3) ^ 400 := by rw [← pow_mul]
    _ < 10 ^ 400 := pow_lt_pow_left₀ (by norm_num) (by norm_num) (by norm_num)
    _ = 10 ^ (400 : ℤ) := (zpow_natCast (10 : ℚ) 400).symm
  constructor
  · have hlead : (10 : ℚ) ^ ((Nat.toDigits 10 digits).length + exponent - 1) ≤
        digits * 10 ^ exponent := by
      have hsplit : (Nat.toDigits 10 digits).length + exponent - 1 =
          ((Nat.toDigits 10 digits).length - 1 : ℤ) + exponent := by ring
      rw [hsplit, zpow_add₀ (by norm_num)]
      exact mul_le_mul_of_nonneg_right (zpow_lead_le hdigits) hpower.le
    have hlarge : digits * (10 : ℚ) ^ exponent < 10 ^ (400 : ℤ) := calc
      digits * (10 : ℚ) ^ exponent < 2 * x.size := hhigh
      _ < 2 * 2 ^ 1024 := mul_lt_mul_of_pos_left x.size_lt two_pos
      _ = 2 ^ 1025 := (pow_succ' 2 1024).symm
      _ ≤ 2 ^ 1200 := pow_le_pow_right₀ (by norm_num) (by norm_num)
      _ < 10 ^ (400 : ℤ) := hbound
    have hexp := (zpow_lt_zpow_iff_right₀ hten).mp (lt_of_le_of_lt hlead hlarge)
    omega
  · have hlead : digits * (10 : ℚ) ^ exponent <
        10 ^ ((Nat.toDigits 10 digits).length + exponent) := by
      rw [zpow_add₀ (by norm_num)]
      exact mul_lt_mul_of_pos_right (lt_zpow_length digits) hpower
    have hsmall : (10 : ℚ) ^ (-400 : ℤ) < digits * 10 ^ exponent := calc
      (10 : ℚ) ^ (-400 : ℤ) = 1 / 10 ^ (400 : ℤ) := by rw [zpow_neg, one_div]
      _ < 1 / 2 ^ 1200 := one_div_lt_one_div_of_lt (by positivity) hbound
      _ ≤ 1 / 2 ^ 1075 := one_div_le_one_div_of_le (by positivity)
          (pow_le_pow_right₀ (by norm_num) (by norm_num))
      _ = 1 / 2 ^ 1074 / 2 := by rw [pow_succ (2 : ℚ) 1074, div_div]
      _ ≤ x.size / 2 := div_le_div_of_nonneg_right (Finite.le_size hsize) two_pos.le
      _ < digits * 10 ^ exponent := hlow
    have hexp := (zpow_lt_zpow_iff_right₀ hten).mp (lt_trans hsmall hlead)
    omega

/-- A decimal is read as a number that is near to it in value. -/
theorem ofDecimal_near (h : |digits * (10 : ℚ) ^ exponent - x.size| < x.size / 2 ^ 54) :
    ofDecimal x.negative digits exponent = .finite x := by
  have hsize : 0 < x.size := by
    have hpart : 0 < x.size / 2 ^ 54 := lt_of_le_of_lt (abs_nonneg _) h
    by_contra hle
    have hnone : x.size / 2 ^ 54 ≤ 0 := div_nonpos_of_nonpos_of_nonneg (not_lt.mp hle) (by positivity)
    linarith
  have hpart : x.size / 2 ^ 54 < x.size / 2 := by
    apply div_lt_div_of_pos_left hsize <;> norm_num
  obtain ⟨hlow, hhigh⟩ := abs_lt.mp h
  have hdigits : digits ≠ 0 := by
    rintro rfl
    rw [Nat.cast_zero, zero_mul] at hlow
    linarith
  have hlow' : x.size / 2 < digits * (10 : ℚ) ^ exponent := by linarith
  have hhigh' : digits * (10 : ℚ) ^ exponent < 2 * x.size := by linarith
  obtain ⟨hmost, hleast⟩ := places_bounds hdigits hlow' hhigh'
  rw [mul_zpow_eq] at h
  unfold ofDecimal
  dsimp only
  rw [if_neg hdigits, if_neg (by omega), if_neg (by omega)]
  split_ifs at h ⊢ with hexponent
  · exact ofRatio_near (by decide) h
  · exact ofRatio_near (Nat.pow_pos (by decide)) h

/-- Zeros at the end of the digits count as powers of ten. -/
theorem ofDecimal_mul_pow (negative : Bool) (digits j : Nat) (exponent : ℤ) :
    ofDecimal negative (digits * 10 ^ j) exponent = ofDecimal negative digits (exponent + j) := by
  by_cases hdigits : digits = 0
  · simp [ofDecimal, hdigits]
  have hpower (k : Nat) : 0 < 10 ^ k := Nat.pow_pos (by decide)
  have hdigits' : digits * 10 ^ j ≠ 0 := Nat.mul_ne_zero hdigits (hpower j).ne'
  have hplaces : ((Nat.toDigits 10 (digits * 10 ^ j)).length : ℤ) + exponent =
      (Nat.toDigits 10 digits).length + (exponent + j) := by
    rw [toDigits_mul_pow hdigits, List.length_append, List.length_replicate]
    push_cast
    ring
  unfold ofDecimal
  dsimp only
  rw [if_neg hdigits, if_neg hdigits', hplaces]
  congr 2
  by_cases hexponent : 0 ≤ exponent
  · have hsum : (exponent + j).toNat = j + exponent.toNat := by omega
    rw [if_pos hexponent, if_pos (by omega), hsum, Nat.pow_eq, Nat.pow_eq, Nat.pow_add,
      Nat.mul_assoc]
  · rw [if_neg hexponent]
    by_cases hshifted : 0 ≤ exponent + j
    · have hsum : j = (exponent + j).toNat + (-exponent).toNat := by omega
      have hscaled : digits * 10 ^ j = digits * Nat.pow 10 (exponent + j).toNat * 10 ^ (-exponent).toNat := by
        rw [Nat.pow_eq, Nat.mul_assoc, ← Nat.pow_add, ← hsum]
      rw [if_pos hshifted, hscaled, ← ofRatio_scale _ _ 1 (hpower (-exponent).toNat), Nat.one_mul]
      rfl
    · have hsum : (-exponent).toNat = (-(exponent + j)).toNat + j := by omega
      rw [if_neg hshifted, ← ofRatio_scale _ digits _ (hpower j), hsum, Nat.pow_eq, Nat.pow_eq,
        Nat.pow_add]

end Reading

section Nearest

variable {x : Finite} {n d : Nat}

/-- The magnitude of a ratio is at most the ratio. -/
theorem zpow_magnitude_le (hn : n ≠ 0) (hd : d ≠ 0) : (10 : ℚ) ^ magnitude n d ≤ n / d := by
  have hd' : (0 : ℚ) < d := Nat.cast_pos.mpr (Nat.pos_of_ne_zero hd)
  rw [le_div_iff₀ hd']
  unfold magnitude
  dsimp only
  have hlead : (10 : ℚ) ^ ((Nat.toDigits 10 n).length - (Nat.toDigits 10 d).length - 1 : ℤ) * d ≤ n := by
    have hsplit : ((Nat.toDigits 10 n).length - (Nat.toDigits 10 d).length - 1 : ℤ) =
        ((Nat.toDigits 10 n).length - 1) + -((Nat.toDigits 10 d).length : ℤ) := by ring
    have hpart : (d : ℚ) / 10 ^ ((Nat.toDigits 10 d).length : ℤ) ≤ 1 :=
      (div_le_one (by positivity)).mpr (lt_zpow_length d).le
    calc (10 : ℚ) ^ ((Nat.toDigits 10 n).length - (Nat.toDigits 10 d).length - 1 : ℤ) * d
        = 10 ^ ((Nat.toDigits 10 n).length - 1 : ℤ) * (d / 10 ^ ((Nat.toDigits 10 d).length : ℤ)) := by
          rw [hsplit, zpow_add₀ (by norm_num), zpow_neg]
          ring
      _ ≤ 10 ^ ((Nat.toDigits 10 n).length - 1 : ℤ) * 1 :=
          mul_le_mul_of_nonneg_left hpart (by positivity)
      _ ≤ n := by
          rw [mul_one]
          exact zpow_lead_le hn
  generalize ((Nat.toDigits 10 n).length : ℤ) - (Nat.toDigits 10 d).length = guess at hlead ⊢
  split_ifs with hexponent hreached hreached
  · rw [zpow_toNat hexponent, mul_comm]
    exact_mod_cast hreached
  · exact hlead
  · have hpower : (0 : ℚ) < 10 ^ guess := by positivity
    have hinverse : (10 : ℚ) ^ guess * 10 ^ (-guess) = 1 := by
      rw [← zpow_add₀ (by norm_num), add_neg_cancel, zpow_zero]
    have hcast : (d : ℚ) ≤ n * 10 ^ (-guess) := by
      rw [zpow_toNat (by omega)]
      exact_mod_cast hreached
    calc (10 : ℚ) ^ guess * d ≤ 10 ^ guess * (n * 10 ^ (-guess)) :=
          mul_le_mul_of_nonneg_left hcast hpower.le
      _ = n * (10 ^ guess * 10 ^ (-guess)) := by ring
      _ = n := by rw [hinverse, mul_one]
  · exact hlead

/-- The quotient, or the next number, is at most a half away from a ratio. -/
theorem quotient_near (hd : 0 < d) (hrest : 2 * (n % d) ≤ d) : |((n / d : ℕ) : ℚ) - n / d| ≤ 1 / 2 := by
  have hd' : (0 : ℚ) < d := Nat.cast_pos.mpr hd
  have hsplit : (d : ℚ) * (n / d : ℕ) + (n % d : ℕ) = n := by exact_mod_cast Nat.div_add_mod n d
  have hrest' : 2 * ((n % d : ℕ) : ℚ) ≤ d := by exact_mod_cast hrest
  have hdiff : ((n / d : ℕ) : ℚ) - n / d = -((n % d : ℕ) / d) := by
    field_simp
    linarith
  rw [hdiff, abs_neg, abs_of_nonneg (by positivity), div_le_iff₀ hd']
  linarith

theorem next_quotient_near (hd : 0 < d) (hrest : d ≤ 2 * (n % d)) :
    |((n / d + 1 : ℕ) : ℚ) - n / d| ≤ 1 / 2 := by
  have hd' : (0 : ℚ) < d := Nat.cast_pos.mpr hd
  have hsplit : (d : ℚ) * (n / d : ℕ) + (n % d : ℕ) = n := by exact_mod_cast Nat.div_add_mod n d
  have hrest' : (d : ℚ) ≤ 2 * ((n % d : ℕ) : ℚ) := by exact_mod_cast hrest
  have hless : ((n % d : ℕ) : ℚ) ≤ d := by exact_mod_cast (Nat.mod_lt n hd).le
  have hdiff : ((n / d + 1 : ℕ) : ℚ) - n / d = (d - (n % d : ℕ)) / d := by
    push_cast
    field_simp
    linarith
  rw [hdiff, abs_of_nonneg (div_nonneg (by linarith) hd'.le), div_le_iff₀ hd']
  linarith

/-- A decimal of seventeen digits that is at most half a unit away from a number is read as it. -/
theorem ofDecimal_of_half {digits : Nat} {exponent : ℤ} {r : ℚ} (hhalf : |digits - r| ≤ 1 / 2)
    (hsize : r * 10 ^ exponent = x.size) (hlead : (10 : ℚ) ^ (exponent + 16) ≤ x.size) :
    ofDecimal x.negative digits exponent = .finite x := by
  have hpower : (0 : ℚ) < 10 ^ exponent := by positivity
  have hunits : (10 : ℚ) ^ exponent * 10 ^ 16 ≤ x.size := by
    rw [zpow_add₀ (by norm_num)] at hlead
    exact_mod_cast hlead
  apply ofDecimal_near
  calc |digits * (10 : ℚ) ^ exponent - x.size|
      = |digits - r| * 10 ^ exponent := by rw [← hsize, ← sub_mul, abs_mul, abs_of_pos hpower]
    _ ≤ 1 / 2 * 10 ^ exponent := mul_le_mul_of_nonneg_right hhalf hpower.le
    _ < 10 ^ exponent * 10 ^ 16 / 2 ^ 54 := by linarith
    _ ≤ x.size / 2 ^ 54 := div_le_div_of_nonneg_right hunits (by positivity)

/-- What is found for a number reads back. -/
theorem ofDecimal_decimalOf? {count : Nat} {found : Decimal} (h : x.decimalOf? count = some found) :
    ofDecimal x.negative found.digits found.exponent = .finite x := by
  unfold Finite.decimalOf? at h
  dsimp only at h
  rw [Option.map_eq_some_iff] at h
  obtain ⟨digits, hfind, rfl⟩ := h
  have hback := List.find?_some hfind
  simpa using hback

/-- The nearer of the two decimals around a number reads back if their unit is small enough. -/
theorem isSome_find?_nearest {exponent : ℤ} (hd : 0 < d) (hsize : (n / d : ℚ) * 10 ^ exponent = x.size)
    (hlead : (10 : ℚ) ^ (exponent + 16) ≤ x.size) :
    ((if 2 * (n % d) < d || (2 * (n % d) == d && n / d % 2 == 0) then [n / d, n / d + 1]
      else [n / d + 1, n / d]).find? fun digits =>
        ofDecimal x.negative digits exponent == .finite x).isSome := by
  have hfirst {first second : Nat} (h : |(first : ℚ) - n / d| ≤ 1 / 2) :
      ([first, second].find? fun digits => ofDecimal x.negative digits exponent == .finite x).isSome := by
    have hback : (ofDecimal x.negative first exponent == .finite x) = true :=
      beq_iff_eq.mpr (ofDecimal_of_half h hsize hlead)
    exact List.find?_isSome.mpr ⟨first, List.mem_cons_self, hback⟩
  split_ifs with hchoice
  · apply hfirst
    apply quotient_near hd
    simp only [Bool.or_eq_true, decide_eq_true_eq, Bool.and_eq_true, beq_iff_eq] at hchoice
    omega
  · apply hfirst
    apply next_quotient_near hd
    simp only [Bool.or_eq_true, decide_eq_true_eq] at hchoice
    omega

/-- Seventeen digits are enough for every number but zero. -/
theorem isSome_decimalOf?_seventeen (h : x.parts ≠ 0) : (x.decimalOf? 17).isSome := by
  have hlead : (10 : ℚ) ^ magnitude x.parts resolution ≤ x.size :=
    zpow_magnitude_le h resolution_pos.ne'
  unfold Finite.decimalOf?
  dsimp only
  rw [Option.isSome_map]
  change (10 : ℚ) ^ magnitude (x.significand * Nat.pow 2 x.scale) resolution ≤ x.size at hlead
  generalize hexponent : magnitude (x.significand * Nat.pow 2 x.scale) resolution -
    ((17 - 1 : ℕ) : ℤ) = exponent
  have hlead' : (10 : ℚ) ^ (exponent + 16) ≤ x.size := by
    rw [← hexponent]
    simpa using hlead
  by_cases hsign : 0 ≤ exponent
  · have hd : 0 < resolution * Nat.pow 10 exponent.toNat :=
      Nat.mul_pos resolution_pos (Nat.pow_pos (by decide))
    have hratio : (x.parts / (resolution * Nat.pow 10 exponent.toNat : ℕ) : ℚ) * 10 ^ exponent =
        x.size := by
      rw [Nat.cast_mul, ← zpow_toNat hsign, Finite.size]
      generalize (resolution : ℚ) = r
      field_simp
    simp only [if_pos hsign]
    exact isSome_find?_nearest hd hratio hlead'
  · have hratio : ((x.parts * Nat.pow 10 (-exponent).toNat : ℕ) / resolution : ℚ) * 10 ^ exponent =
        x.size := by
      rw [Nat.cast_mul, ← zpow_toNat (by omega), zpow_neg, Finite.size]
      generalize (resolution : ℚ) = r
      field_simp
    simp only [if_neg hsign]
    exact isSome_find?_nearest resolution_pos hratio hlead'

theorem zero_eq (h : x.isZero = true) : zero x.negative = .finite x := by
  obtain ⟨negative, significand, scale, hlt, hnormal, hle⟩ := x
  obtain rfl : significand = 0 := by simpa [Finite.isZero] using h
  have hscale : scale = 0 := by
    obtain hlarge | hnone := hnormal
    · contradiction
    · exact hnone
  subst hscale
  rfl

theorem Finite.parts_ne_zero (h : x.isZero = false) : x.parts ≠ 0 := by
  have hsignificand : x.significand ≠ 0 := by simpa [Finite.isZero] using h
  exact Nat.mul_ne_zero hsignificand (Nat.two_pow_pos _).ne'

/-- The shortest decimal of a number reads back. -/
theorem ofDecimal_shortest (h : x.isZero = false) :
    ofDecimal x.negative x.shortest.digits x.shortest.exponent = .finite x := by
  have hsome : ((List.range 17).findSome? fun n => x.decimalOf? (n + 1)).isSome := by
    rw [List.findSome?_isSome_iff]
    exact ⟨16, by simp, isSome_decimalOf?_seventeen (Finite.parts_ne_zero h)⟩
  obtain ⟨found, hfound⟩ := Option.isSome_iff_exists.mp hsome
  obtain ⟨n, -, hn⟩ := List.exists_of_findSome?_eq_some hfound
  have hshortest : x.shortest = found := by
    rw [Finite.shortest, hfound]
    rfl
  rw [hshortest]
  exact ofDecimal_decimalOf? hn

theorem digits_shortest_ne_zero (h : x.isZero = false) : x.shortest.digits ≠ 0 := by
  intro hdigits
  have hback := ofDecimal_shortest h
  rw [hdigits, ofDecimal, if_pos rfl, zero, Binary64.finite.injEq] at hback
  rw [← hback] at h
  contradiction

end Nearest

end BuildLauncher.Binary64

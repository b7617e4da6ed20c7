import Mathlib.Algebra.Order.Field.Basic
import Mathlib.Algebra.Order.Ring.Rat
import Mathlib.Data.Rat.Cast.Order
import Mathlib.Tactic.FieldSimp
import Mathlib.Tactic.Linarith
import Mathlib.Tactic.Positivity
import Mathlib.Tactic.Ring
import BuildLauncher.Number.Binary64

/-!
# Rounding to a near number

A ratio that is less than one part in `2 ^ 54` away from a finite number is rounded to that number
(`ofRatio_near`). Only the value of the ratio counts (`ofRatio_scale`).
-/
namespace BuildLauncher.Binary64

section Quotients

variable {n d q k : Nat}

/-- What lies less than a half away from an integer is rounded to it. -/
theorem roundDiv_eq (hbelow : 2 * (q * d) < 2 * n + d) (habove : 2 * n < 2 * (q * d) + d) :
    roundDiv n d = q := by
  have hsplit : n / d * d + n % d = n := by rw [Nat.mul_comm]; exact Nat.div_add_mod n d
  have hd : 0 < d := by omega
  have hrest : n % d < d := Nat.mod_lt n hd
  have hup : (n / d + 1) * d = n / d * d + d := Nat.succ_mul _ d
  unfold roundDiv
  dsimp only
  by_cases hlow : 2 * (n % d) < d
  · rw [if_pos hlow]
    have hle : n / d * d < (q + 1) * d := by rw [Nat.succ_mul]; omega
    have hge : q * d < (n / d + 1) * d := by omega
    have hle' := Nat.lt_of_mul_lt_mul_right hle
    have hge' := Nat.lt_of_mul_lt_mul_right hge
    omega
  · have hgt : n / d * d < q * d := by omega
    have hle : q * d < (n / d + 1 + 1) * d := by rw [Nat.succ_mul]; omega
    have hgt' := Nat.lt_of_mul_lt_mul_right hgt
    have hle' := Nat.lt_of_mul_lt_mul_right hle
    have heq : q = n / d + 1 := by omega
    -- A tie would be half away from both neighbours.
    have hhigh : d < 2 * (n % d) := by
      rw [heq, hup] at hbelow
      omega
    rw [if_neg hlow, if_pos hhigh, heq]

theorem roundDiv_scale (n d : Nat) {c : Nat} (hc : 0 < c) : roundDiv (n * c) (d * c) = roundDiv n d := by
  have hdouble : 2 * (n % d * c) = 2 * (n % d) * c := (Nat.mul_assoc ..).symm
  have hlow : 2 * (n % d) * c < d * c ↔ 2 * (n % d) < d := Nat.mul_lt_mul_right hc
  have hhigh : d * c < 2 * (n % d) * c ↔ d < 2 * (n % d) := Nat.mul_lt_mul_right hc
  unfold roundDiv
  dsimp only
  simp only [Nat.mul_div_mul_right n d hc, Nat.mul_mod_mul_right, hdouble, hlow, hhigh]

theorem unitScale_eq (hbelow : k = 0 ∨ 2 ^ (k + 52) ≤ n) (habove : n < 2 ^ (k + 53)) :
    unitScale n = k := by
  unfold unitScale
  by_cases hsmall : n < Nat.pow 2 53
  · rw [if_pos hsmall]
    obtain rfl | hle := hbelow
    · rfl
    · have hlt : 2 ^ (k + 52) < 2 ^ 53 := lt_of_le_of_lt hle hsmall
      have hexp := (Nat.pow_lt_pow_iff_right (by decide)).mp hlt
      omega
  · rw [if_neg hsmall]
    have hne : n ≠ 0 := by
      rintro rfl
      exact hsmall (by decide)
    have hlow : 2 ^ (k + 52) ≤ n := by
      obtain rfl | hle := hbelow
      · exact le_trans (by decide) (Nat.le_of_not_lt hsmall)
      · exact hle
    have hlog : n.log2 = k + 52 := by
      rw [Nat.log2_eq_iff hne]
      exact ⟨hlow, habove⟩
    omega

end Quotients

section Ratios

variable {x : Finite} {n d k m : Nat}

theorem ofSpelling_eq (x : Finite) :
    ofSpelling x.negative x.significand x.scale = .finite x :=
  dif_pos ⟨x.significand_lt, x.normal, x.scale_le⟩

theorem ofRatio_of_rounded (hscale : unitScale (n * resolution / d) = x.scale)
    (hrounded : roundDiv (n * resolution) (d * 2 ^ x.scale) = x.significand) :
    ofRatio x.negative n d = .finite x := by
  have hcarry : x.significand ≠ Nat.pow 2 53 := Nat.ne_of_lt x.significand_lt
  have hrounded' : roundDiv (n * resolution) (d * Nat.pow 2 x.scale) = x.significand := hrounded
  unfold ofRatio
  dsimp only
  rw [hscale, hrounded', if_neg hcarry, ofSpelling_eq]

/-- What is rounded up to a power of two is spelled at the next scale. -/
theorem ofRatio_of_carried (hscale : unitScale (n * resolution / d) = k)
    (hrounded : roundDiv (n * resolution) (d * 2 ^ k) = 2 ^ 53) (hleast : x.significand = 2 ^ 52)
    (hnext : x.scale = k + 1) : ofRatio x.negative n d = .finite x := by
  have hrounded' : roundDiv (n * resolution) (d * Nat.pow 2 k) = Nat.pow 2 53 := hrounded
  have hleast' : x.significand = Nat.pow 2 52 := hleast
  unfold ofRatio
  dsimp only
  rw [hscale, hrounded', if_pos rfl, ← hleast', ← hnext, ofSpelling_eq]

theorem ofRatio_scale (negative : Bool) (n d : Nat) {c : Nat} (hc : 0 < c) :
    ofRatio negative (n * c) (d * c) = ofRatio negative n d := by
  have hwhole : n * c * resolution / (d * c) = n * resolution / d := by
    rw [Nat.mul_right_comm, Nat.mul_div_mul_right _ _ hc]
  have hrounded (k : Nat) : roundDiv (n * c * resolution) (d * c * k) =
      roundDiv (n * resolution) (d * k) := by
    rw [Nat.mul_right_comm n, Nat.mul_right_comm d, roundDiv_scale _ _ hc]
  unfold ofRatio
  dsimp only
  rw [hwhole, hrounded]

/-- The size of a number in the parts that its resolution has. -/
def Finite.parts (x : Finite) : Nat := x.significand * 2 ^ x.scale

/-- A ratio is rounded to a number if it differs from the number by less than one part in `2 ^ 54`. -/
theorem ofRatio_of_close (hd : 0 < d)
    (hbelow : 2 ^ 54 * (x.parts * d) < 2 ^ 54 * (n * resolution) + x.parts * d)
    (habove : 2 ^ 54 * (n * resolution) < 2 ^ 54 * (x.parts * d) + x.parts * d) :
    ofRatio x.negative n d = .finite x := by
  have hparts : x.parts * d = x.significand * (d * 2 ^ x.scale) := by
    rw [Finite.parts, Nat.mul_assoc, Nat.mul_comm (2 ^ x.scale) d]
  have hgrid : 0 < d * 2 ^ x.scale := Nat.mul_pos hd (Nat.two_pow_pos _)
  have hlimit : x.significand * (d * 2 ^ x.scale) + d * 2 ^ x.scale ≤ 2 ^ 53 * (d * 2 ^ x.scale) := by
    rw [← Nat.succ_mul]
    exact Nat.mul_le_mul_right _ x.significand_lt
  rw [hparts] at hbelow habove
  have hplace (k : Nat) : 2 ^ (x.scale + k) * d = 2 ^ k * (d * 2 ^ x.scale) := by
    rw [Nat.pow_add]
    ring
  generalize hN : n * resolution = N at hbelow habove
  by_cases hscale : x.scale = 0 ∨ 2 ^ 52 * (d * 2 ^ x.scale) ≤ N
  · have hunit : unitScale (n * resolution / d) = x.scale := by
      apply unitScale_eq
      · obtain hzero | hle := hscale
        · exact .inl hzero
        · right
          rw [Nat.le_div_iff_mul_le hd, hplace, hN]
          exact hle
      · rw [Nat.div_lt_iff_lt_mul hd, hplace, hN]
        omega
    have hround : roundDiv (n * resolution) (d * 2 ^ x.scale) = x.significand := by
      rw [hN]
      exact roundDiv_eq (by omega) (by omega)
    exact ofRatio_of_rounded hunit hround
  · -- The ratio is below a power of two, and its unit half of that of the number above it.
    rw [not_or, Nat.not_le] at hscale
    obtain ⟨hpositive, hlow⟩ := hscale
    obtain ⟨j, hj⟩ := Nat.exists_eq_succ_of_ne_zero hpositive
    have hleast : x.significand = 2 ^ 52 := by
      have hnormal : 2 ^ 52 ≤ x.significand := x.normal.resolve_right hpositive
      have hlt : x.significand * (d * 2 ^ x.scale) < (2 ^ 52 + 1) * (d * 2 ^ x.scale) := by omega
      have hlt' := Nat.lt_of_mul_lt_mul_right hlt
      omega
    have hhalf : d * 2 ^ x.scale = 2 * (d * 2 ^ j) := by
      rw [hj, Nat.pow_succ]
      ring
    have hplace' (k : Nat) : 2 ^ (j + k) * d = 2 ^ k * (d * 2 ^ j) := by
      rw [Nat.pow_add]
      ring
    rw [hleast, hhalf] at hbelow habove
    rw [hhalf] at hlow
    have hunit : unitScale (n * resolution / d) = j := by
      apply unitScale_eq
      · right
        rw [Nat.le_div_iff_mul_le hd, hplace', hN]
        omega
      · rw [Nat.div_lt_iff_lt_mul hd, hplace', hN]
        omega
    have hround : roundDiv (n * resolution) (d * 2 ^ j) = 2 ^ 53 := by
      rw [hN]
      exact roundDiv_eq (by omega) (by omega)
    exact ofRatio_of_carried hunit hround hleast hj

theorem resolution_pos : 0 < resolution := by
  have hpower (k : Nat) : 0 < Nat.pow 2 k := Nat.two_pow_pos k
  unfold resolution
  apply hpower

/-- The size of a number. -/
def Finite.size (x : Finite) : ℚ := x.parts / resolution

/-- A ratio is rounded to a number that is near to it in value. -/
theorem ofRatio_near (hd : 0 < d) (h : |(n / d : ℚ) - x.size| < x.size / 2 ^ 54) :
    ofRatio x.negative n d = .finite x := by
  have hd' : (0 : ℚ) < d := Nat.cast_pos.mpr hd
  have hresolution : (0 : ℚ) < resolution := Nat.cast_pos.mpr resolution_pos
  have hgrid : (0 : ℚ) < resolution * d := mul_pos hresolution hd'
  have hratio : (n / d : ℚ) * (resolution * d) = n * resolution := by field_simp
  have hsize : x.size * (resolution * d) = x.parts * d := by
    unfold Finite.size
    field_simp
  obtain ⟨hlow, hhigh⟩ := abs_lt.mp h
  have hbelow : x.size * 2 ^ 54 < n / d * 2 ^ 54 + x.size := by linarith
  have habove : n / d * 2 ^ 54 < x.size * 2 ^ 54 + x.size := by linarith
  apply ofRatio_of_close hd
  · have hscaled := mul_lt_mul_of_pos_right hbelow hgrid
    have hparts : (2 ^ 54 : ℚ) * (x.parts * d) < 2 ^ 54 * (n * resolution) + x.parts * d := by
      rw [← hsize, ← hratio]
      linarith
    exact_mod_cast hparts
  · have hscaled := mul_lt_mul_of_pos_right habove hgrid
    have hparts : (2 ^ 54 : ℚ) * (n * resolution) < 2 ^ 54 * (x.parts * d) + x.parts * d := by
      rw [← hsize, ← hratio]
      linarith
    exact_mod_cast hparts

end Ratios

end BuildLauncher.Binary64

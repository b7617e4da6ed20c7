/-!
# Binary floating point in exact arithmetic

A finite number is `± significand · 2 ^ scale / 2 ^ 1074`, so that every operation is one exact
operation on integers followed by one rounding to nearest, ties to even. Each finite number has
exactly one spelling, and equality of spellings is equality of numbers and of their signs.
-/
namespace BuildLauncher

/-- A finite binary64 number, `± significand · 2 ^ scale / 2 ^ 1074`. -/
structure Binary64.Finite where
  negative : Bool
  significand : Nat
  scale : Nat
  significand_lt : significand < Nat.pow 2 53
  normal : Nat.pow 2 52 ≤ significand ∨ scale = 0
  scale_le : scale ≤ 2045
deriving DecidableEq, Repr

inductive Binary64
  | notANumber
  | infinite (negative : Bool)
  | finite (x : Binary64.Finite)
deriving DecidableEq, Repr

namespace Binary64

/-- Every finite number is a whole number of parts of this size in one. -/
def resolution : Nat := Nat.pow 2 1074

/-- The quotient `n / d` rounded to the nearest integer, a half going to the even neighbour. -/
def roundDiv (n d : Nat) : Nat :=
  let q := n / d
  let r := n % d
  if 2 * r < d then q
  else if d < 2 * r then q + 1
  else if q % 2 = 0 then q else q + 1

def zero (negative : Bool) : Binary64 :=
  .finite ⟨negative, 0, 0, by decide, .inr rfl, by decide⟩

/-- The scale at which numbers of this many parts are spelled. -/
def unitScale (parts : Nat) : Nat := if parts < Nat.pow 2 53 then 0 else parts.log2 - 52

/-- The finite number of a spelling; a scale beyond the largest stands for infinity. -/
def ofSpelling (negative : Bool) (significand scale : Nat) : Binary64 :=
  if h : significand < Nat.pow 2 53 ∧ (Nat.pow 2 52 ≤ significand ∨ scale = 0) ∧ scale ≤ 2045 then
    .finite ⟨negative, significand, scale, h.1, h.2.1, h.2.2⟩
  else
    .infinite negative

/-- The number nearest to `± n / d`; beyond the largest finite number it is infinite. -/
def ofRatio (negative : Bool) (n d : Nat) : Binary64 :=
  let scaled := n * resolution
  let scale := unitScale (scaled / d)
  let rounded := roundDiv scaled (d * Nat.pow 2 scale)
  -- Rounding up may reach the next power of two.
  if rounded = Nat.pow 2 53 then ofSpelling negative (Nat.pow 2 52) (scale + 1)
  else ofSpelling negative rounded scale

/-- The number nearest to `± digits · 10 ^ exponent`. Exponents far outside the range are settled
without computing the power. -/
def ofDecimal (negative : Bool) (digits : Nat) (exponent : Int) : Binary64 :=
  if digits = 0 then zero negative
  else
    let places : Int := (Nat.toDigits 10 digits).length + exponent
    if places > 400 then .infinite negative
    else if places < -400 then zero negative
    else if 0 ≤ exponent then ofRatio negative (digits * Nat.pow 10 exponent.toNat) 1
    else ofRatio negative digits (Nat.pow 10 (-exponent).toNat)

def ofInt (n : Int) : Binary64 := ofRatio (n < 0) n.natAbs 1

namespace Finite

/-- The exact value as a multiple of `2 ^ -1074`. -/
def scaled (x : Finite) : Int :=
  let magnitude : Int := (x.significand * Nat.pow 2 x.scale : Nat)
  if x.negative then -magnitude else magnitude

def isZero (x : Finite) : Bool := x.significand = 0

/-- The integer that the number equals, if it is one. -/
def toInt? (x : Finite) : Option Int :=
  let magnitude := x.significand * Nat.pow 2 x.scale
  if magnitude % resolution = 0 then
    let whole : Int := (magnitude / resolution : Nat)
    some (if x.negative then -whole else whole)
  else none

end Finite

/-- The difference, rounded once. Only `-0 - 0` keeps the sign of a zero. -/
def sub : Binary64 → Binary64 → Binary64
  | .notANumber, _ | _, .notANumber => .notANumber
  | .infinite a, .infinite b => if a = b then .notANumber else .infinite a
  | .infinite a, .finite _ => .infinite a
  | .finite _, .infinite b => .infinite (!b)
  | .finite x, .finite y =>
    let d := x.scaled - y.scaled
    if d = 0 then zero (x.isZero && x.negative && !y.negative)
    else ofRatio (d < 0) d.natAbs resolution

/-- The product with a positive natural number, rounded once. -/
def scaleBy (factor : Nat) : Binary64 → Binary64
  | .finite x => ofRatio x.negative (x.significand * Nat.pow 2 x.scale * factor) resolution
  | x => x

/-- The number nearest to the value rounded to `places` decimal places. -/
def roundTo (places : Nat) : Binary64 → Binary64
  | .finite x =>
    let units := roundDiv (x.significand * Nat.pow 2 x.scale * Nat.pow 10 places) resolution
    ofRatio x.negative units (Nat.pow 10 places)
  | x => x

@[simp] theorem roundTo_notANumber (places : Nat) : roundTo places .notANumber = .notANumber := rfl

/-- A number is nonzero unless it is one of the two zeros. -/
def isZero : Binary64 → Bool
  | .finite x => x.isZero
  | _ => false

end Binary64
end BuildLauncher

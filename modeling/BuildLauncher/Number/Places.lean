import BuildLauncher.Number.Decimal

/-!
# Decimal text of a chosen length

A number is written with a given number of places after the point, or with a given number of digits
before a power of ten. The last digit is rounded to the nearest, a half going to the even one.
-/
namespace BuildLauncher.Binary64

/-- The multiple of `10 ^ -places` nearest to the size of a number. -/
def Finite.units (x : Finite) (places : Nat) : Nat :=
  roundDiv (x.significand * Nat.pow 2 x.scale * Nat.pow 10 places) resolution

/-- The digits of a part after a point. Without any the point is kept only if it is asked for. -/
def pointed (keepPoint : Bool) (part : List Char) : List Char :=
  if part.isEmpty then (if keepPoint then ['.'] else []) else '.' :: part

/-- The size of a number with `places` digits after the point. -/
def Finite.fixedText (x : Finite) (places : Nat) (keepPoint : Bool) : List Char :=
  let digits := padLeft (places + 1) '0' (Nat.toDigits 10 (x.units places))
  let whole := digits.length - places
  digits.take whole ++ pointed keepPoint (digits.drop whole)

/-- The size of a number rounded to `count` digits: the digits, and the power of ten of the first of
them. -/
def Finite.leading (x : Finite) (count : Nat) : Nat × Int :=
  if x.isZero then (0, 0)
  else
    let n := x.significand * Nat.pow 2 x.scale
    let d := resolution
    let power := magnitude n d
    let exponent := power - (count - 1 : Nat)
    let digits :=
      if 0 ≤ exponent then roundDiv n (d * Nat.pow 10 exponent.toNat)
      else roundDiv (n * Nat.pow 10 (-exponent).toNat) d
    if digits = Nat.pow 10 count then (Nat.pow 10 (count - 1), power + 1) else (digits, power)

/-- A power of ten as it follows the digits, with a sign and at least two digits. -/
def powerText (power : Int) : List Char :=
  'e' :: (if power < 0 then '-' else '+') :: padLeft 2 '0' (Nat.toDigits 10 power.natAbs)

/-- The size of a number with one digit before the point, `places` after it, and a power of ten. -/
def Finite.powerText (x : Finite) (places : Nat) (keepPoint : Bool) : List Char :=
  let (digits, power) := x.leading (places + 1)
  let digits := padLeft (places + 1) '0' (Nat.toDigits 10 digits)
  digits.take 1 ++ pointed keepPoint (digits.drop 1) ++ Binary64.powerText power

/-- Zeros at the end of the part after a point say nothing, nor does a point at the end. -/
def dropEndZeros (s : List Char) : List Char :=
  if s.contains '.' then
    let trimmed := (s.reverse.dropWhile (· = '0')).reverse
    if trimmed.getLast? = some '.' then trimmed.dropLast else trimmed
  else s

/-- The size of a number with `count` digits, written with a power of ten only where the number is
small or has more digits before the point than are asked for. With `full` no zero is dropped. -/
def Finite.generalText (x : Finite) (count : Nat) (full : Bool) : List Char :=
  let (digits, power) := x.leading count
  let trimmed (s : List Char) := if full then s else dropEndZeros s
  if -4 ≤ power && power < count then trimmed (x.fixedText (count - 1 - power).toNat full)
  else
    let digits := padLeft count '0' (Nat.toDigits 10 digits)
    trimmed (digits.take 1 ++ pointed full (digits.drop 1)) ++ Binary64.powerText power

end BuildLauncher.Binary64

import BuildLauncher.Number.Binary64

/-!
# Shortest decimal text

The decimal text of a number shows the fewest digits that read back as the same number, and among
those the nearest to it. Which exponents are written out in full is a matter of each format.
-/
namespace BuildLauncher.Binary64

/-- A positive decimal number, `digits · 10 ^ exponent`. -/
structure Decimal where
  digits : Nat
  exponent : Int
deriving DecidableEq, Repr

/-- The power of ten of the leading digit of `n / d`, for positive `n` and `d`. -/
def magnitude (n d : Nat) : Int :=
  let guess : Int := (Nat.toDigits 10 n).length - (Nat.toDigits 10 d).length
  let reached :=
    if 0 ≤ guess then d * Nat.pow 10 guess.toNat ≤ n else d ≤ n * Nat.pow 10 (-guess).toNat
  if reached then guess else guess - 1

/-- The decimal with `count` digits nearest to `x` that reads back as `x`, if there is one. -/
def Finite.decimalOf? (x : Finite) (count : Nat) : Option Decimal :=
  let n := x.significand * Nat.pow 2 x.scale
  let d := resolution
  let exponent := magnitude n d - (count - 1 : Nat)
  let (n, d) :=
    if 0 ≤ exponent then (n, d * Nat.pow 10 exponent.toNat)
    else (n * Nat.pow 10 (-exponent).toNat, d)
  let below := n / d
  let readsBack (digits : Nat) := ofDecimal x.negative digits exponent == .finite x
  let nearest :=
    if 2 * (n % d) < d || (2 * (n % d) == d && below % 2 == 0) then [below, below + 1]
    else [below + 1, below]
  (nearest.find? readsBack).map fun digits => ⟨digits, exponent⟩

/-- The fewest digits that read back, at most seventeen. -/
def Finite.shortest (x : Finite) : Decimal :=
  ((List.range 17).findSome? fun n => x.decimalOf? (n + 1)).getD ⟨0, 0⟩

/-- How a format writes a number: the leading digit's powers of ten that are written out in full,
the least number of exponent digits, whether a positive exponent has a sign, and the texts of
the numbers that are not finite. -/
structure NumberFormat where
  fullFrom : Int
  fullBelow : Int
  exponentDigits : Nat
  exponentPlus : Bool
  notANumber : String
  infinite : String
  negativeInfinite : String

def padLeft (width : Nat) (fill : Char) (s : List Char) : List Char :=
  List.replicate (width - s.length) fill ++ s

def NumberFormat.unsigned (f : NumberFormat) (d : Decimal) : List Char :=
  let digits := Nat.toDigits 10 d.digits
  let trimmed := (digits.reverse.dropWhile (· == '0')).reverse
  let lead : Int := d.exponent + digits.length - 1
  if f.fullFrom ≤ lead && lead < f.fullBelow then
    if lead < 0 then
      "0.".toList ++ List.replicate (-lead - 1).toNat '0' ++ trimmed
    else
      let point := lead.toNat + 1
      let whole := trimmed.take point ++ List.replicate (point - trimmed.length) '0'
      let part := trimmed.drop point
      whole ++ '.' :: (if part.isEmpty then ['0'] else part)
  else
    let part := trimmed.drop 1
    let power := padLeft f.exponentDigits '0' (Nat.toDigits 10 lead.natAbs)
    let sign := if lead < 0 then ['-'] else if f.exponentPlus then ['+'] else []
    trimmed.take 1 ++ (if part.isEmpty then [] else '.' :: part) ++ 'e' :: (sign ++ power)

def NumberFormat.text (f : NumberFormat) : Binary64 → String
  | .notANumber => f.notANumber
  | .infinite negative => if negative then f.negativeInfinite else f.infinite
  | .finite x =>
    let sign := if x.negative then ['-'] else []
    let body := if x.isZero then "0.0".toList else f.unsigned x.shortest
    String.ofList (sign ++ body)

end BuildLauncher.Binary64

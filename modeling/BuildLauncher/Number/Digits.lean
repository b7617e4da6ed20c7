import BuildLauncher.Number.Binary64

/-!
# Reading digits

Digits write a natural number in a base; appending digits multiplies by powers of the base.
-/
namespace BuildLauncher

def digitValue? (c : Char) : Option Nat :=
  if '0' ≤ c ∧ c ≤ '9' then some (c.toNat - '0'.toNat)
  else if 'a' ≤ c ∧ c ≤ 'f' then some (c.toNat - 'a'.toNat + 10)
  else if 'A' ≤ c ∧ c ≤ 'F' then some (c.toNat - 'A'.toNat + 10)
  else none

def isDigitOf (base : Nat) (c : Char) : Bool := (digitValue? c).any (· < base)

/-- The number that digits of `base` write; other characters count as zero. -/
def ofDigits (base : Nat) (digits : List Char) : Nat :=
  digits.foldl (fun n c => n * base + (digitValue? c).getD 0) 0

theorem foldl_digits (base : Nat) (digits : List Char) (n : Nat) :
    digits.foldl (fun n c => n * base + (digitValue? c).getD 0) n =
      n * Nat.pow base digits.length + ofDigits base digits := by
  induction digits generalizing n with
  | nil => simp [ofDigits]
  | cons c rest ih =>
    have power : Nat.pow base (rest.length + 1) = Nat.pow base rest.length * base := rfl
    simp only [ofDigits, List.foldl_cons, List.length_cons, power]
    rw [ih, ih (0 * base + _)]
    grind

theorem ofDigits_append (base : Nat) (a b : List Char) :
    ofDigits base (a ++ b) = ofDigits base a * Nat.pow base b.length + ofDigits base b := by
  rw [ofDigits, List.foldl_append, foldl_digits]
  rfl

/-- The most decimal digits of a text that is read as an integer. -/
def digitLimit : Nat := 4300

/-- What is said of an integer that is longer than that. -/
def tooManyDigits (digits : Nat) : String :=
  "Exceeds the limit (" ++ toString digitLimit ++
    " digits) for integer string conversion: value has " ++ toString digits ++
    " digits; use sys.set_int_max_str_digits() to increase the limit"

/-- A decimal number as it is written: the digits before and after the point, and the exponent. -/
structure Numeral where
  negative : Bool
  whole : List Char
  part : List Char
  exponent : Int

/-- The number nearest to a numeral. -/
def Numeral.toBinary64 (n : Numeral) : Binary64 :=
  Binary64.ofDecimal n.negative (ofDigits 10 (n.whole ++ n.part)) (n.exponent - n.part.length)

def signed (negative : Bool) (n : Nat) : Int := if negative then -(n : Int) else n

end BuildLauncher

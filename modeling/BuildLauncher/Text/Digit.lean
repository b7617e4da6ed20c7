import BuildLauncher.Text.CodeRange
import BuildLauncher.Text.WordTables

/-!
# Letters and digits of all scripts

Every script has its own ten digits, and all of them write numbers in the same way.
-/
namespace BuildLauncher.Text

/-- Letters, numbers and the underscore make up words. -/
def isWordChar (c : Char) : Bool := covers wordRanges c.toNat

/-- The value of a decimal digit: its place in its run. -/
def decimalValue? (c : Char) : Option Nat :=
  (decimalRanges.find? fun r => r.1 ≤ c.toNat && c.toNat ≤ r.2).map fun r => (c.toNat - r.1) % 10

def isDecimal (c : Char) : Bool := (decimalValue? c).isSome

/-- The number that decimal digits write. -/
def ofDecimals (digits : List Char) : Nat :=
  digits.foldl (fun n c => n * 10 + (decimalValue? c).getD 0) 0

end BuildLauncher.Text

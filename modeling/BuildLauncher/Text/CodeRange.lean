/-!
# Sets of code points as ranges

A set is a list of first and last members of its runs.
-/
namespace BuildLauncher.Text

/-- Does one of the closed ranges hold the code point? -/
def covers (ranges : List (Nat × Nat)) (code : Nat) : Bool :=
  ranges.any fun r => r.1 ≤ code && code ≤ r.2

theorem covers_iff {ranges : List (Nat × Nat)} {code : Nat} :
    covers ranges code = true ↔ ∃ r ∈ ranges, r.1 ≤ code ∧ code ≤ r.2 := by
  simp [covers]

end BuildLauncher.Text

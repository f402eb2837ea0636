import FormCapture.Text.Basic

/-! # Character properties

A property of characters as a list of ranges of code points, ends included. -/

namespace FormCapture.Text

/-- A set of code points, as the first and the last of each range. -/
abbrev Ranges := List (Nat × Nat)

def Ranges.has (ranges : Ranges) (n : Nat) : Bool := ranges.any fun r => r.1 ≤ n && n ≤ r.2

theorem Ranges.has_iff {ranges : Ranges} {n : Nat} :
    ranges.has n = true ↔ ∃ r ∈ ranges, r.1 ≤ n ∧ n ≤ r.2 := by
  simp [Ranges.has]

end FormCapture.Text

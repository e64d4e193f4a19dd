/-!
# Sets of characters given by ranges

The character classes of this library are unions of closed ranges of code points, written as
lists of pairs. Membership is a search through such a list.
-/

namespace Formulas.Text

/-- A closed range of code points, its first and its last member. -/
abbrev CodeRange := Nat × Nat

/-- The character lies in one of the ranges. -/
def inRanges (ranges : List CodeRange) (c : Char) : Bool :=
  ranges.any fun r => r.1 ≤ c.toNat && c.toNat ≤ r.2

/-- Membership is the bound of some range on both sides. -/
theorem inRanges_iff {ranges : List CodeRange} {c : Char} :
    inRanges ranges c = true ↔ ∃ r ∈ ranges, r.1 ≤ c.toNat ∧ c.toNat ≤ r.2 := by
  simp [inRanges]

end Formulas.Text

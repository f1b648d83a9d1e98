/-!
# Sets of code points

A property of characters is given by the list of its code point ranges, both ends included. A character has the property
exactly when its code point lies in one of them (`mem_iff`).
-/

namespace TaintSummary.Unicode

/-- Ranges of code points, both ends included. -/
abbrev CodeRanges := List (Nat × Nat)

namespace CodeRanges

/-- The character's code point lies in one of the ranges. -/
def has (ranges : CodeRanges) (c : Char) : Bool :=
  ranges.any fun r => r.1 ≤ c.toNat && c.toNat ≤ r.2

/-- A character has the property when its code point lies in one of the ranges. -/
theorem mem_iff {ranges : CodeRanges} {c : Char} :
    ranges.has c = true ↔ ∃ r ∈ ranges, r.1 ≤ c.toNat ∧ c.toNat ≤ r.2 := by
  simp [has, List.any_eq_true]

end CodeRanges

end TaintSummary.Unicode

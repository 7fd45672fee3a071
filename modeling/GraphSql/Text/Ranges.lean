/-!
# Classes of characters given by ranges

A class with thousands of members is written as the list of its ranges of code points. Membership
is a scan of that list, so a statement about a class is a statement about finitely many bounds.
-/

namespace GraphSql.Text

/-- Code points given by ranges, both ends included. -/
abbrev Ranges := List (Nat × Nat)

/-- Whether a code point lies in one of the ranges. -/
def Ranges.contains (ranges : Ranges) (point : Nat) : Bool :=
  ranges.any fun range => decide (range.1 ≤ point) && decide (point ≤ range.2)

theorem Ranges.contains_eq_true {ranges : Ranges} {point : Nat} :
    ranges.contains point = true ↔ ∃ range ∈ ranges, range.1 ≤ point ∧ point ≤ range.2 := by
  simp [Ranges.contains, List.any_eq_true]

end GraphSql.Text

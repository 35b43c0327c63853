import EndpointDocs.Text.Basic

/-!
# Tables of characters

A property of characters that cannot be computed is given as a table of ranges of code points, both
ends included.
-/

namespace EndpointDocs
namespace Text

/-- A table of ranges of code points, both ends of each included. -/
abbrev Ranges := List (Nat × Nat)

/-- Whether a character lies in one of the ranges of a table. -/
def inRanges (table : Ranges) (c : Char) : Bool :=
  table.any fun range => decide (range.1 ≤ c.toNat) && decide (c.toNat ≤ range.2)

theorem inRanges_eq_true_iff {table : Ranges} {c : Char} :
    inRanges table c = true ↔ ∃ range ∈ table, range.1 ≤ c.toNat ∧ c.toNat ≤ range.2 := by
  simp [inRanges]

end Text
end EndpointDocs

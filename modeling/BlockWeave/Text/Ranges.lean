/-! # Sets of characters given by ranges of codes -/

namespace BlockWeave.Text

/-- Membership of a code in a table of closed ranges. -/
def inRanges (table : List (Nat × Nat)) (code : Nat) : Bool :=
  table.any fun range => range.1 ≤ code && code ≤ range.2

/-- A code is in a table exactly when one of its ranges holds it. -/
theorem inRanges_iff (table : List (Nat × Nat)) (code : Nat) :
    inRanges table code = true ↔ ∃ range ∈ table, range.1 ≤ code ∧ code ≤ range.2 := by
  simp [inRanges]

end BlockWeave.Text

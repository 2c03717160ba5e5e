/-! Classes of characters given by a table of code point ranges.

A table lists closed ranges in ascending order without overlap, as the standard tables of
character properties do.
-/

namespace CharLcd.Text

/-- Whether some range of the table holds the code point. -/
def inRanges (ranges : List (Nat × Nat)) (code : Nat) : Bool :=
  ranges.any fun range => range.1 ≤ code && code ≤ range.2

/-- Membership in a table is membership in one of its ranges. -/
theorem inRanges_iff {ranges : List (Nat × Nat)} {code : Nat}
    : inRanges ranges code = true ↔ ∃ range ∈ ranges, range.1 ≤ code ∧ code ≤ range.2 := by
  simp [inRanges]

/-- Ranges follow each other with a gap, so no code point lies in two of them. -/
def ascending : List (Nat × Nat) → Bool
  | first :: second :: rest =>
      first.1 ≤ first.2 && first.2 < second.1 && ascending (second :: rest)
  | [last] => last.1 ≤ last.2
  | [] => true

end CharLcd.Text

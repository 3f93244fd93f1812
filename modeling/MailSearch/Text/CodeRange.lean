/-!
# Ranges of code points

A character class of the Unicode Character Database is a list of inclusive ranges of code points.
`CodeRange.covers` says whether a list holds a code point.
-/

namespace MailSearch.Text

/-- Inclusive ranges of code points, first and last. -/
abbrev CodeRanges := List (Nat × Nat)

/-- Whether one of the ranges holds the code point. -/
def CodeRanges.covers (ranges : CodeRanges) (code : Nat) : Bool :=
  ranges.any fun r => r.1 ≤ code && code ≤ r.2

theorem CodeRanges.covers_iff (ranges : CodeRanges) (code : Nat) :
    ranges.covers code = true ↔ ∃ r ∈ ranges, r.1 ≤ code ∧ code ≤ r.2 := by
  simp [CodeRanges.covers]

end MailSearch.Text

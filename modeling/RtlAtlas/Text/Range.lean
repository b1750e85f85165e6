/-
Sets of code points given as closed intervals: the form in which the character classes of this
library keep their tables. A code point belongs to the set when one of the intervals holds it.
-/
namespace RtlAtlas.Text

/-- Whether one of the closed intervals holds the code point. -/
def inRanges (ranges : List (Nat × Nat)) (code : Nat) : Bool :=
  ranges.any fun r => r.1 ≤ code && code ≤ r.2

theorem inRanges_iff {ranges : List (Nat × Nat)} {code : Nat} :
    inRanges ranges code = true ↔ ∃ r ∈ ranges, r.1 ≤ code ∧ code ≤ r.2 := by
  simp [inRanges]

end RtlAtlas.Text

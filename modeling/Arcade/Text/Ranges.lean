/-!
# Sets of code points

A set of characters is listed as closed ranges of code points. Membership is a scan of that
list, so a table is checked by reading it.
-/

namespace Arcade.Text

/-- Whether the number lies in one of the closed ranges. -/
def inRanges (ranges : List (Nat × Nat)) (n : Nat) : Bool :=
  ranges.any fun r => decide (r.1 ≤ n) && decide (n ≤ r.2)

theorem inRanges_iff {ranges : List (Nat × Nat)} {n : Nat} :
    inRanges ranges n = true ↔ ∃ r ∈ ranges, r.1 ≤ n ∧ n ≤ r.2 := by
  simp [inRanges]

theorem inRanges_append (xs ys : List (Nat × Nat)) (n : Nat) :
    inRanges (xs ++ ys) n = (inRanges xs n || inRanges ys n) := by
  simp [inRanges]

end Arcade.Text

/-!
# Ranges of code points

Character properties are given as lists of closed ranges of code points.
-/

namespace ApiRecovery.Text

def inRanges (n : Nat) (ranges : List (Nat × Nat)) : Bool :=
  ranges.any fun (first, last) => first ≤ n && n ≤ last

theorem inRanges_eq_true_iff {n : Nat} {ranges : List (Nat × Nat)} :
    inRanges n ranges = true ↔ ∃ r ∈ ranges, r.1 ≤ n ∧ n ≤ r.2 := by
  simp [inRanges]

end ApiRecovery.Text

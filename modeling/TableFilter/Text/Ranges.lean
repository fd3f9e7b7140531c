/-!
# Classes of characters as ranges of code points

A class of the Unicode standard is stored as its maximal runs of code points in ascending order.
Looking a character up stops at the first run that ends at or after it, so the common characters
at the front of a table are decided after a few comparisons.
-/

namespace TableFilter.Text

/-- Membership in an ascending list of inclusive ranges. -/
def inRanges (n : Nat) : List (Nat × Nat) → Bool
  | [] => false
  | (first, last) :: rest =>
    if n < first then false else if n ≤ last then true else inRanges n rest

theorem inRanges_of_lt_first (n first last : Nat) (rest : List (Nat × Nat)) (h : n < first) :
    inRanges n ((first, last) :: rest) = false := by
  simp [inRanges, h]

end TableFilter.Text

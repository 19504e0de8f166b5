/-!
# Ranges of code points

A character property is given as the list of its code point ranges, each with its first and its
last member, in increasing order.
-/

namespace Rerank.Text

/-- Code point ranges, each given by its first and its last member. -/
abbrev CodeRanges := List (Nat × Nat)

/-- Whether the character's code point lies in one of the ranges. -/
def CodeRanges.contains (ranges : CodeRanges) (c : Char) : Bool :=
  ranges.any fun range => decide (range.1 ≤ c.toNat) && decide (c.toNat ≤ range.2)

end Rerank.Text

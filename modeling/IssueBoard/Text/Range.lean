/-!
# Character ranges

Properties of characters are given as ascending lists of code point ranges, both ends included.
-/

namespace IssueBoard.Text

/-- Whether a character lies in one of the ranges. -/
def inRanges (ranges : List (Nat × Nat)) (c : Char) : Bool :=
  ranges.any fun range => range.1 ≤ c.toNat && c.toNat ≤ range.2

end IssueBoard.Text

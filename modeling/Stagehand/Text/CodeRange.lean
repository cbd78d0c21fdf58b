/-! # Tables of code points

A property of characters is a table of closed ranges of code points, lowest first.
-/

set_option autoImplicit false

namespace Stagehand.Text

/-- Some range of the table holds the character. -/
def inRanges (ranges : List (Nat × Nat)) (c : Char) : Bool :=
  ranges.any fun range => range.1 ≤ c.toNat && c.toNat ≤ range.2

end Stagehand.Text

/-!
# Sets of characters given by ranges

The character classes of this library are data of the Unicode standard.  Each is a list of
inclusive ranges of code points in increasing order, and membership is one scan of that list.
-/

namespace PrintSpec.Text

/-- An inclusive range of code points: its first and its last member. -/
abbrev CodeRange := Nat × Nat

/-- Whether a character lies in one of the ranges. -/
def inRanges (ranges : List CodeRange) (c : Char) : Bool :=
  ranges.any fun r => r.1 ≤ c.toNat && c.toNat ≤ r.2

end PrintSpec.Text

/-!
# Ranges of characters

A character property beyond ASCII is kept as a table of ranges of code points.
-/

namespace GuideSite.Text

/-- The code points from the first to the second, both included. -/
abbrev CharRange := Nat × Nat

namespace CharRange

/-- The character lies in one of the ranges. -/
def covers (ranges : List CharRange) (c : Char) : Bool :=
  ranges.any fun r => r.1 ≤ c.toNat && c.toNat ≤ r.2

end CharRange

end GuideSite.Text

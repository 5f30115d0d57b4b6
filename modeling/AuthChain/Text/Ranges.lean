/-!
# Ranges of code points

A character class given as a list of closed ranges of code points, and membership in it.
-/

namespace AuthChain.Text

/-- A closed range of code points, first and last. -/
abbrev CodeRange := Nat × Nat

/-- The character lies in one of the ranges. -/
def inRanges (ranges : List CodeRange) (c : Char) : Bool :=
  ranges.any fun (first, last) => first ≤ c.toNat && c.toNat ≤ last

end AuthChain.Text

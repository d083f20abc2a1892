/-!
Properties of characters as ranges of codes.
-/

namespace C4Diagram

/-- The first and the last code of each range. -/
abbrev CodeRanges := List (Nat × Nat)

def CodeRanges.covers (ranges : CodeRanges) (c : Char) : Bool :=
  ranges.any fun r => r.1 ≤ c.toNat && c.toNat ≤ r.2

end C4Diagram

/-! Sets of characters as ranges of code points. -/

namespace ChipEight

/-- Ranges of code points, each with its first and its last one, in ascending order. -/
abbrev CharRanges := List (Nat × Nat)

/-- A character lies in one of the ranges. -/
def CharRanges.contains (ranges : CharRanges) (c : Char) : Bool :=
  match ranges with
  | [] => false
  | (first, last) :: rest =>
    first ≤ c.toNat && (c.toNat ≤ last || CharRanges.contains rest c)

end ChipEight

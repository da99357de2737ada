/-
Module: Abacus.Text.Range
Purpose: Sets of characters given by ranges of code points, the form in which the character
  tables of this library are written.
Main exports: inRanges
-/

namespace Abacus.Text

/-- Whether a character lies in one of the ranges; both ends of a range belong to it. -/
def inRanges (ranges : List (Nat × Nat)) (c : Char) : Bool :=
  ranges.any fun range => range.1 ≤ c.toNat && c.toNat ≤ range.2

end Abacus.Text

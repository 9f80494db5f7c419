set_option autoImplicit false

/-!
# Ranges of code points

Sets of characters that are given by the ranges of their code points.

## Main definitions

* `Text.CodeRanges`, `Text.CodeRanges.contains` - some ranges, and whether a code point lies in one.
-/

namespace RegisterFile.Text

/-- Ranges of code points, each with its first and last one. -/
abbrev CodeRanges := List (Nat × Nat)

/-- Whether a code point lies in one of some ranges. -/
def CodeRanges.contains (ranges : CodeRanges) (n : Nat) : Bool :=
  ranges.any fun (first, last) => first ≤ n && n ≤ last

end RegisterFile.Text

import RegisterFile.Text.Blank
import RegisterFile.Text.Numeral

set_option autoImplicit false

/-!
# Integer literals

Integers written as text: an optional sign, an optional radix mark and digits.

The mark `0x` stands for hexadecimal and `0b` for binary, with the letter in either case; without a
mark the digits are decimal. Underscores may stand anywhere among the digits, and blanks around the
whole. The magnitude stays below `2 ^ 127`.

## Main definitions

* `IntegerLiteral.splitSign`, `IntegerLiteral.splitRadix` - the parts of a literal.
* `IntegerLiteral.parse?` - the integer that a text denotes.
-/

namespace RegisterFile.IntegerLiteral

/-- Take a sign off: whether it is a minus, and the characters behind it. -/
def splitSign : List Char → Bool × List Char
  | '-' :: cs => (true, cs)
  | '+' :: cs => (false, cs)
  | cs => (false, cs)

/-- Take a radix mark off: the radix and the characters behind the mark. -/
def splitRadix : List Char → Nat × List Char
  | '0' :: 'x' :: cs => (16, cs)
  | '0' :: 'X' :: cs => (16, cs)
  | '0' :: 'b' :: cs => (2, cs)
  | '0' :: 'B' :: cs => (2, cs)
  | cs => (10, cs)

/-- Magnitudes of integer literals stay below this bound. -/
def magnitudeBound : Nat := Nat.pow 2 127

/-- The magnitude of a literal without its sign. -/
def magnitude? (cs : List Char) : Option Nat :=
  let (radix, ds) := splitRadix cs
  (Numeral.value? radix (ds.filter (· ≠ '_'))).filter (· < magnitudeBound)

/-- The integer that a text denotes. -/
def parse? (s : String) : Option Int :=
  let (negative, cs) := splitSign (Text.trim s.toList)
  (magnitude? cs).map fun m => if negative then -(m : Int) else m

end RegisterFile.IntegerLiteral

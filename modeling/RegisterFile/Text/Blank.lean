set_option autoImplicit false

/-!
# Blanks

Characters with the Unicode property `White_Space`, and their removal from the ends of a text.

## Main definitions

* `Text.isBlank` - whether a character is white space.
* `Text.trimStart`, `Text.trimEnd`, `Text.trim` - a text without blanks at its start, at its end,
  at both.
-/

namespace RegisterFile.Text

/-- Whether `c` has the Unicode property `White_Space`. -/
def isBlank (c : Char) : Bool :=
  let n := c.toNat
  (0x9 ≤ n && n ≤ 0xd) || n == 0x20 || n == 0x85 || n == 0xa0 || n == 0x1680 ||
    (0x2000 ≤ n && n ≤ 0x200a) || n == 0x2028 || n == 0x2029 || n == 0x202f || n == 0x205f ||
    n == 0x3000

/-- The text without the blanks at its start. -/
def trimStart (cs : List Char) : List Char :=
  cs.dropWhile isBlank

/-- The text without the blanks at its end. -/
def trimEnd (cs : List Char) : List Char :=
  (cs.reverse.dropWhile isBlank).reverse

/-- The text without the blanks at its two ends. -/
def trim (cs : List Char) : List Char :=
  trimEnd (trimStart cs)

end RegisterFile.Text

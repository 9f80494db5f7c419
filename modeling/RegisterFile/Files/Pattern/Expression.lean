import RegisterFile.Files.Pattern.Basic

set_option autoImplicit false

/-!
# Expressions of patterns

The regular expression over bytes that a pattern stands for, as text.

Bytes of characters beyond ASCII are written as escapes, and a backslash stands in front of every
character that has a meaning of its own in an expression.

## Main definitions

* `Files.byteExpression` - the expression of a single byte.
* `Files.Pattern.expression` - the expression of a pattern.
-/

namespace RegisterFile.Files

/-- The characters that have a meaning of their own in an expression. -/
def expressionMarks : List Char :=
  ['\\', '.', '+', '*', '?', '(', ')', '|', '[', ']', '\x7b', '\x7d', '^', '$', '#', '&', '-', '~']

/-- The expression of a single byte. -/
def byteExpression (b : UInt8) : String :=
  let c := Char.ofNat b.toNat
  if 0x7f < b then "\\x" ++ String.ofList (Nat.toDigits 16 b.toNat)
  else if expressionMarks.contains c then "\\" ++ c.toString
  else c.toString

/-- The expression of a range of bytes inside a class. -/
def rangeExpression : UInt8 × UInt8 → String
  | (first, last) =>
    if first = last then byteExpression first
    else byteExpression first ++ "-" ++ byteExpression last

mutual

/-- The expression of a part of a pattern. -/
def PatternPart.expression : PatternPart → String
  | .byte b => byteExpression b
  | .anyByte => "[^/]"
  | .anyBytes => "[^/]*"
  | .byteOf excluded ranges =>
    "[" ++ (if excluded then "^" else "") ++ String.join (ranges.map rangeExpression) ++ "]"
  | .leadingDirectories => "(?:/?|.*/)"
  | .directoriesBetween => "(?:/|/.*/)"
  | .everythingBelow => "/.*"
  | .group [] => ""
  | .group (pattern :: others) =>
    "(?:" ++ Pattern.partsExpression pattern ++ Pattern.othersExpression others ++ ")"

/-- The expression of the parts of a pattern. -/
def Pattern.partsExpression : Pattern → String
  | [] => ""
  | p :: later => p.expression ++ Pattern.partsExpression later

/-- The expression of the alternatives behind the first one. -/
def Pattern.othersExpression : List Pattern → String
  | [] => ""
  | pattern :: others => "|" ++ Pattern.partsExpression pattern ++ Pattern.othersExpression others

end

/-- The expression of a pattern. -/
def Pattern.expression (pattern : Pattern) : String :=
  "(?-u)^" ++ pattern.partsExpression ++ "$"

end RegisterFile.Files

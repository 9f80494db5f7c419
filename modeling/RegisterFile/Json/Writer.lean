import RegisterFile.Json.Value

set_option autoImplicit false

/-!
# Writing JSON

JSON values as text, either without any white space or with every item and member on a line of its
own.

In a string the quotation mark, the backslash and the characters below U+0020 are escaped, and
nothing else is.

## Main definitions

* `Json.Layout` - where line breaks and spaces are put.
* `Json.writeText` - a quoted string.
* `Json.Value.write` - the characters of a value.
* `Json.Value.compact`, `Json.Value.pretty` - the text of a value.
-/

namespace RegisterFile.Json

open Numeral (digits zeroPadded)

/-! ## Strings -/

/-- A character as it stands inside a quoted string. -/
def escapeChar (c : Char) : List Char :=
  if c = '"' then ['\\', '"']
  else if c = '\\' then ['\\', '\\']
  else if c.toNat = 0x8 then ['\\', 'b']
  else if c.toNat = 0x9 then ['\\', 't']
  else if c.toNat = 0xa then ['\\', 'n']
  else if c.toNat = 0xc then ['\\', 'f']
  else if c.toNat = 0xd then ['\\', 'r']
  else if c.toNat < 0x20 then '\\' :: 'u' :: zeroPadded 4 (digits 16 c.toNat)
  else [c]

/-- A text as a quoted string. -/
def writeText (s : String) : List Char :=
  '"' :: s.toList.flatMap escapeChar ++ ['"']

/-! ## Values -/

/-- Where line breaks and spaces are put. -/
inductive Layout where
  /-- Nowhere. -/
  | compact
  /-- Each item on a line of its own, `step` spaces deeper than what holds it. -/
  | indented (step : Nat)

/-- The start of a new line at the given depth. -/
def Layout.newLine : Layout → Nat → List Char
  | .compact, _ => []
  | .indented step, depth => '\n' :: List.replicate (step * depth) ' '

/-- What stands between a key and its value. -/
def Layout.colon : Layout → List Char
  | .compact => [':']
  | .indented _ => [':', ' ']

mutual

/-- The characters of a value at the given depth. -/
def Value.write (layout : Layout) (depth : Nat) : Value → List Char
  | .null => ['n', 'u', 'l', 'l']
  | .boolean true => ['t', 'r', 'u', 'e']
  | .boolean false => ['f', 'a', 'l', 's', 'e']
  | .number n => n.write
  | .text s => writeText s
  | .array [] => ['[', ']']
  | .array (v :: vs) =>
    '[' :: layout.newLine (depth + 1) ++ v.write layout (depth + 1) ++
      writeItems layout depth vs ++ layout.newLine depth ++ [']']
  | .object [] => ['{', '}']
  | .object ((k, v) :: rest) =>
    '{' :: layout.newLine (depth + 1) ++ writeText k ++ layout.colon ++
      v.write layout (depth + 1) ++ writeMembers layout depth rest ++ layout.newLine depth ++ ['}']

/-- The characters of the further items of an array. -/
def writeItems (layout : Layout) (depth : Nat) : List Value → List Char
  | [] => []
  | v :: vs =>
    ',' :: layout.newLine (depth + 1) ++ v.write layout (depth + 1) ++ writeItems layout depth vs

/-- The characters of the further members of an object. -/
def writeMembers (layout : Layout) (depth : Nat) : List (String × Value) → List Char
  | [] => []
  | (k, v) :: rest =>
    ',' :: layout.newLine (depth + 1) ++ writeText k ++ layout.colon ++
      v.write layout (depth + 1) ++ writeMembers layout depth rest

end

/-- The text of a value, without any white space around its parts. -/
def Value.compact (v : Value) : String :=
  String.ofList (v.write .compact 0)

/-- The text of a value, every item and member on a line of its own, `step` spaces deeper per
level. -/
def Value.pretty (step : Nat) (v : Value) : String :=
  String.ofList (v.write (.indented step) 0)

end RegisterFile.Json

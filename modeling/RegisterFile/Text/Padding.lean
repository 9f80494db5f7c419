set_option autoImplicit false

/-!
# Padding

Text filled up with spaces to a column width.

Widths count characters (code points), never bytes. No field may be wider than `widestField`
characters; asking for more is a fault of its own, whatever the text to be padded is.

## Main definitions

* `Text.padEnd` - a text followed by spaces up to a width.
* `Text.widestField` - the widest field that is ever filled up.
* `Text.fieldWidth` - a requested width, if it is not too wide.
-/

namespace RegisterFile.Text

/-- `s` followed by as many spaces as bring it to `width` characters; a longer text stays as it
is. -/
def padEnd (width : Nat) (s : String) : String :=
  s ++ String.ofList (List.replicate (width - s.length) ' ')

/-- The widest field that text or digits are ever filled up to. -/
def widestField : Nat := 65535

/-- A field was requested that is wider than `widestField`. -/
structure FieldTooWide where
  /-- The requested width. -/
  width : Nat
  deriving DecidableEq, Repr

/-- The requested width of a field, refused if it exceeds `widestField`. -/
def fieldWidth (width : Nat) : Except FieldTooWide Nat :=
  if width ≤ widestField then .ok width else .error ⟨width⟩

end RegisterFile.Text

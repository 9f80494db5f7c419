import RegisterFile.Text.CaseTable

set_option autoImplicit false

/-!
# Upper case

The full upper-case form of a text: every character is replaced by its upper-case form whatever
stands around it, and a form may have several characters, so the length of the text can change.

## Main definitions

* `Text.uppercaseChar` - the upper-case form of a character.
* `Text.uppercase` - the upper-case form of a text.
-/

namespace RegisterFile.Text

/-- The upper-case form of a character. -/
def uppercaseChar (c : Char) : List Char :=
  if c.toNat < 0x80 then [c.toUpper]
  else
    match longUppercase.lookup c.toNat with
    | some form => form.map Char.ofNat
    | none =>
      match caseRuns.findSome? (·.image? c.toNat) with
      | some n => [Char.ofNat n]
      | none => [c]

/-- The upper-case form of a text, character by character. -/
def uppercase (s : String) : String :=
  String.ofList (s.toList.flatMap uppercaseChar)

end RegisterFile.Text

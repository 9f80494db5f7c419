import Mathlib.Data.String.Basic
import RegisterFile.Text.Padding

set_option autoImplicit false

/-!
# Laws of padding

Padding puts spaces behind a text and never shortens it. How wide the outcome is depends on the
number of characters alone, whatever bytes they take, and of several widths only the greatest one
shows.

## Main results

* `Text.length_padEnd` - how wide a text is that is filled up.
* `Text.padEnd_eq_self_iff` - when there is nothing to fill up.
* `Text.padEnd_padEnd` - filling up twice.
* `Text.fieldWidth_eq_ok`, `Text.fieldWidth_eq_error` - which fields are granted.
-/

namespace RegisterFile.Text

variable (width : Nat) (s : String)

/-- A text that is filled up is the text with spaces behind it. -/
@[simp] lemma toList_padEnd :
    (padEnd width s).toList = s.toList ++ List.replicate (width - s.length) ' ' := by
  rw [padEnd, String.toList_append, String.toList_ofList]

/-- A text that is filled up has as many characters as the width, unless it has more without
that. -/
@[simp] theorem length_padEnd : (padEnd width s).length = max width s.length := by
  rw [← String.length_toList, toList_padEnd, List.length_append, List.length_replicate,
    String.length_toList]
  omega

/-- There is nothing to fill up exactly if the text is as wide as that already. -/
theorem padEnd_eq_self_iff : padEnd width s = s ↔ width ≤ s.length := by
  rw [← String.toList_inj, toList_padEnd, List.append_right_eq_self, List.replicate_eq_nil_iff,
    Nat.sub_eq_zero_iff_le]

/-- Filling up twice fills up to the greater width. -/
theorem padEnd_padEnd (m n : Nat) : padEnd n (padEnd m s) = padEnd (max m n) s := by
  have hspaces : m - s.length + (n - max m s.length) = max m n - s.length := by omega
  rw [← String.toList_inj, toList_padEnd, toList_padEnd, toList_padEnd, length_padEnd,
    List.append_assoc, List.replicate_append_replicate, hspaces]

variable {width}

/-- A field that is not too wide is granted. -/
theorem fieldWidth_eq_ok (h : width ≤ widestField) : fieldWidth width = .ok width := if_pos h

/-- A field that is too wide is refused. -/
theorem fieldWidth_eq_error (h : ¬width ≤ widestField) : fieldWidth width = .error ⟨width⟩ :=
  if_neg h

end RegisterFile.Text

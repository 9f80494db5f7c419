import RegisterFile.IntegerLiteral
import RegisterFile.Proofs.Numeral

set_option autoImplicit false

/-!
# What integer literals denote

The hexadecimal spelling of a natural number is an integer literal of that number, if the number
stays below the bound of magnitudes: neither blanks nor underscores occur among its digits, so that
nothing is taken away before they are read.

## Main results

* `IntegerLiteral.parse?_hex` - the `0x` spelling of a number denotes it.
-/

namespace RegisterFile

open Numeral (digits)

namespace Text

/-- Without blanks nothing is trimmed. -/
lemma trim_eq_self {cs : List Char} (h : ∀ c ∈ cs, isBlank c = false) : trim cs = cs := by
  have hdrop {ds : List Char} (hds : ∀ c ∈ ds, isBlank c = false) : ds.dropWhile isBlank = ds := by
    cases ds with
    | nil => rfl
    | cons d ds => simp [hds d List.mem_cons_self]
  rw [trim, trimStart, hdrop h, trimEnd, hdrop fun c hc => h c (List.mem_reverse.mp hc),
    List.reverse_reverse]

end Text

namespace IntegerLiteral

/-- A hexadecimal digit is neither a blank nor an underscore. -/
lemma digitChar_ne {d : Nat} (hd : d < 16) :
    Text.isBlank (Nat.digitChar d) = false ∧ Nat.digitChar d ≠ '_' := by
  revert d
  decide

/-- No blank stands in the hexadecimal spelling of a number. -/
lemma trim_hex (n : Nat) : Text.trim (Numeral.hex n).toList = '0' :: 'x' :: digits 16 n := by
  rw [Numeral.hex, String.toList_ofList]
  refine Text.trim_eq_self fun c hc => ?_
  rcases List.mem_cons.mp hc with rfl | hc
  · decide
  rcases List.mem_cons.mp hc with rfl | hc
  · decide
  obtain ⟨d, hd, rfl⟩ := Numeral.exists_of_mem_digits (by decide) hc
  exact (digitChar_ne hd).1

/-- No underscore stands among the digits of a number. -/
lemma filter_digits (n : Nat) : (digits 16 n).filter (· ≠ '_') = digits 16 n := by
  refine List.filter_eq_self.mpr fun c hc => ?_
  obtain ⟨d, hd, rfl⟩ := Numeral.exists_of_mem_digits (by decide) hc
  exact decide_eq_true (digitChar_ne hd).2

/-- The magnitude of the hexadecimal spelling of a number. -/
lemma magnitude?_hex {n : Nat} (hn : n < magnitudeBound) :
    magnitude? ('0' :: 'x' :: digits 16 n) = some n := by
  have hvalue : Numeral.value? 16 (digits 16 n) = some n :=
    Numeral.value?_digits (by decide) (by decide) n
  rw [magnitude?, splitRadix]
  dsimp only
  rw [filter_digits, hvalue]
  exact Option.filter_eq_some_iff.mpr ⟨rfl, decide_eq_true hn⟩

/-- **The hexadecimal spelling of a number denotes it.** -/
theorem parse?_hex {n : Nat} (hn : n < magnitudeBound) :
    parse? (Numeral.hex n) = some (n : Int) := by
  simp [parse?, trim_hex, splitSign, magnitude?_hex hn]

end IntegerLiteral

end RegisterFile

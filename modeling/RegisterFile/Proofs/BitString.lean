import RegisterFile.Proofs.Numeral
import RegisterFile.Proofs.Outcome
import RegisterFile.Proofs.Text.Padding
import RegisterFile.Template.Filter

set_option autoImplicit false

/-!
# What bit string literals denote

A bit string literal of a number that fits in the requested bits has exactly these bits, and they
are the number's binary digits. Hexadecimal digits stand for four bits each, binary ones for one.

## Main definitions

* `bitStringValue?` - the number of bits and the number of a bit string literal.

## Main results

* `bitString_eq_hex` - the literal where four divides the bits.
* `bitStringValue?_hex` - what it denotes.
-/

namespace RegisterFile

open Numeral (digits upperDigits zeroPadded value?)

/-- The digits in front of a closing quotation mark, each of which stands for `step` bits: how many
bits they stand for, and the number that they denote. -/
def quotedDigits? (radix step : Nat) (cs : List Char) : Option (Nat × Nat) :=
  if cs.getLast? = some '"' then
    (value? radix cs.dropLast).map fun n => (step * cs.dropLast.length, n)
  else none

/-- The number of bits of a bit string literal and the number that they denote. -/
def bitStringValue? (literal : String) : Option (Nat × Nat) :=
  match literal.toList with
  | 'x' :: '"' :: cs => quotedDigits? 16 4 cs
  | '"' :: cs => quotedDigits? 2 1 cs
  | _ => none

/-- The literal where four divides the bits is hexadecimal. -/
theorem bitString_eq_hex {bits : Nat} (hbits : bits % 4 = 0)
    (hwide : bits / 4 ≤ Text.widestField) (n : Nat) :
    bitString bits n =
      .ok (String.ofList ('x' :: '"' :: zeroPadded (bits / 4) (upperDigits 16 n) ++ ['"'])) := by
  have hdigits : bitStringDigits bits = bits / 4 := if_pos hbits
  rw [bitString, hdigits, Text.fieldWidth_eq_ok hwide]
  simp [hbits]

/-- The literal where four does not divide the bits is binary. -/
lemma bitString_eq_binary {bits : Nat} (hbits : bits % 4 ≠ 0) (hwide : bits ≤ Text.widestField)
    (n : Nat) :
    bitString bits n = .ok (String.ofList ('"' :: zeroPadded bits (digits 2 n) ++ ['"'])) := by
  have hdigits : bitStringDigits bits = bits := if_neg hbits
  rw [bitString, hdigits, Text.fieldWidth_eq_ok hwide]
  simp [hbits]

/-- Hexadecimal digits in a literal denote their number, with four bits for each of them. -/
lemma bitStringValue?_hexDigits {ds : List Char} {n : Nat} (h : value? 16 ds = some n) :
    bitStringValue? (String.ofList ('x' :: '"' :: ds ++ ['"'])) = some (4 * ds.length, n) := by
  simp [bitStringValue?, quotedDigits?, h]

/-- Binary digits in a literal denote their number, with one bit for each of them. -/
lemma bitStringValue?_binaryDigits {ds : List Char} {n : Nat} (h : value? 2 ds = some n) :
    bitStringValue? (String.ofList ('"' :: ds ++ ['"'])) = some (1 * ds.length, n) := by
  simp [bitStringValue?, quotedDigits?, h]

/-- Upper-case digits behind zeros denote the number that they are written for. -/
lemma value?_zeroPadded_upperDigits (count n : Nat) :
    value? 16 (zeroPadded count (upperDigits 16 n)) = some n := by
  have hne : upperDigits 16 n ≠ [] := by
    simpa [upperDigits] using Numeral.digits_ne_nil n
  rw [Numeral.value?_zeroPadded (by decide) count hne, value?, List.isEmpty_eq_false_iff.mpr hne]
  exact Numeral.valueFrom?_upperDigits (by decide) (by decide) n

/-- Binary digits behind zeros denote the number that they are written for. -/
lemma value?_zeroPadded_digits (count n : Nat) :
    value? 2 (zeroPadded count (digits 2 n)) = some n := by
  rw [Numeral.value?_zeroPadded (by decide) count (Numeral.digits_ne_nil n)]
  exact Numeral.value?_digits (by decide) (by decide) n

/-- A number below `16 ^ count` has no more than `count` hexadecimal digits. -/
lemma length_zeroPadded_upperDigits {count n : Nat} (hcount : 0 < count) (hn : n < 16 ^ count) :
    (zeroPadded count (upperDigits 16 n)).length = count := by
  have hlength : (upperDigits 16 n).length ≤ count := by
    rw [upperDigits, List.length_map]
    exact (Numeral.length_digits_le_iff (by decide) hcount).mpr hn
  rw [Numeral.length_zeroPadded, Nat.max_eq_left hlength]

/-- **A hexadecimal literal of a number that fits denotes it**, with four bits for each digit. -/
theorem bitStringValue?_hex {count n : Nat} (hcount : 0 < count) (hn : n < 16 ^ count) :
    bitStringValue? (String.ofList ('x' :: '"' :: zeroPadded count (upperDigits 16 n) ++ ['"'])) =
      some (4 * count, n) := by
  rw [bitStringValue?_hexDigits (value?_zeroPadded_upperDigits count n),
    length_zeroPadded_upperDigits hcount hn]

end RegisterFile

set_option autoImplicit false

/-!
# Numerals

Natural numbers written in a positional numeral system and read back from their digits.

A numeral has no sign, no separators and, unless it is padded, no superfluous leading zeros; the
number zero is the single digit `0`. Digits above nine are written with letters, in lower case
unless `upperDigits` is used. Reading accepts letters of either case.

## Main definitions

* `Numeral.digits`, `Numeral.upperDigits` - the digits of a number, most significant first.
* `Numeral.zeroPadded` - a digit sequence filled up with leading zeros.
* `Numeral.hex` - the `0x` spelling of a number.
* `Numeral.value?` - the number that a digit sequence denotes.
-/

namespace RegisterFile.Numeral

/-! ## Writing -/

/-- The digits of `n` in the given radix, most significant first, letters in lower case. -/
def digits (radix n : Nat) : List Char :=
  Nat.toDigits radix n

/-- The digits of `n` in the given radix, most significant first, letters in upper case. -/
def upperDigits (radix n : Nat) : List Char :=
  (digits radix n).map Char.toUpper

/-- `cs` with leading zeros, so that it has at least `count` digits. -/
def zeroPadded (count : Nat) (cs : List Char) : List Char :=
  List.replicate (count - cs.length) '0' ++ cs

/-- The hexadecimal spelling of `n`: `0x` and its digits in lower case. -/
def hex (n : Nat) : String :=
  String.ofList ('0' :: 'x' :: digits 16 n)

/-- The hexadecimal spelling of `n` with leading zeros after the `0x`, at least `width` characters
long as a whole. -/
def paddedHex (width n : Nat) : String :=
  String.ofList ('0' :: 'x' :: zeroPadded (width - 2) (digits 16 n))

/-! ## Reading -/

/-- The value of a digit, decimal or a letter of either case, whatever the radix. -/
def anyDigitValue? (c : Char) : Option Nat :=
  if '0' ≤ c ∧ c ≤ '9' then some (c.toNat - '0'.toNat)
  else if 'a' ≤ c ∧ c ≤ 'z' then some (c.toNat - 'a'.toNat + 10)
  else if 'A' ≤ c ∧ c ≤ 'Z' then some (c.toNat - 'A'.toNat + 10)
  else none

/-- The value of a digit of the given radix. -/
def digitValue? (radix : Nat) (c : Char) : Option Nat :=
  (anyDigitValue? c).filter (· < radix)

/-- Continue a number with further digits: `start` followed by the digits `cs`. -/
def valueFrom? (radix start : Nat) : List Char → Option Nat
  | [] => some start
  | c :: cs => (digitValue? radix c).bind fun d => valueFrom? radix (radix * start + d) cs

/-- The number that a non-empty sequence of digits of the given radix denotes. -/
def value? (radix : Nat) (cs : List Char) : Option Nat :=
  if cs.isEmpty then none else valueFrom? radix 0 cs

end RegisterFile.Numeral

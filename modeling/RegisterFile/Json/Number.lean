import RegisterFile.Text.Numeral

set_option autoImplicit false

/-!
# JSON numbers

A JSON number is kept as a sign, a mantissa of at most 64 bits and a power of ten.

A digit that would carry the mantissa past 64 bits is not appended to it: before the decimal point
it raises the exponent by one instead, after the decimal point it is left out. The digits behind it
are tried again on the unchanged mantissa. A number is written with a decimal point as long as it
stays short, otherwise with an exponent.

Exponents have 16 bits. Digits before the decimal point may not raise one beyond the greatest
exponent, and one that is written out is held between the bounds. Digits after the decimal point
lower it without a check: a fraction of up to 32768 digits stays above the least exponent, and a
longer one is kept with the exponent that it asks for, although 16 bits do not hold it.

## Main definitions

* `Json.Number` - a number.
* `Json.appendDigit?` - a mantissa with one more digit, if that fits.
* `Json.Number.ofNat` - the number with exponent zero.
* `Json.Number.write` - the characters of a number.
-/

namespace RegisterFile.Json

open Numeral (digits zeroPadded)

/-- A JSON number: `mantissa * 10 ^ exponent`, negated if `negative`. -/
structure Number where
  negative : Bool
  mantissa : Nat
  exponent : Int
  deriving DecidableEq, Repr

/-- Mantissas stay below this bound. -/
def mantissaBound : Nat := UInt64.size

/-- The largest exponent. -/
def greatestExponent : Int := 32767

/-- The least exponent. -/
def leastExponent : Int := -32768

/-- The mantissa with one more decimal digit, if it stays below its bound. -/
def appendDigit? (mantissa digit : Nat) : Option Nat :=
  if 10 * mantissa + digit < mantissaBound then some (10 * mantissa + digit) else none

/-- An exponent, held between the least and the greatest one. -/
def clampExponent (e : Int) : Int :=
  max leastExponent (min greatestExponent e)

namespace Number

/-- The number `n`, written without a fraction or an exponent. -/
def ofNat (n : Nat) : Number := ⟨false, n, 0⟩

/-- The number with the opposite sign; zero has two signs. -/
def negate (n : Number) : Number := { n with negative := !n.negative }

/-- The integer that a number without exponent stands for. -/
def toInt? (n : Number) : Option Int :=
  if n.exponent = 0 then some (if n.negative then -(n.mantissa : Int) else n.mantissa) else none

/-! ## Writing -/

/-- The digits `d :: ds` with a decimal point after the first one, if there are others. -/
def pointAfterFirst : List Char → List Char
  | [] => []
  | [d] => [d]
  | d :: ds => d :: '.' :: ds

/-- The characters of a mantissa with a negative exponent `-places`: with a decimal point for fewer
than eighteen places, otherwise with an exponent counted from the first digit. -/
def writeFraction (mantissa places : Nat) : List Char :=
  if places < 18 then
    digits 10 (mantissa / Nat.pow 10 places) ++
      '.' :: zeroPadded places (digits 10 (mantissa % Nat.pow 10 places))
  else
    let ds := digits 10 mantissa
    let after := ds.length - 1
    pointAfterFirst ds ++
      (if after < places then 'e' :: '-' :: digits 10 (places - after)
      else if places < after then 'e' :: '+' :: digits 10 (after - places)
      else [])

/-- The characters of a mantissa with a positive exponent: with zeros up to twenty digits,
otherwise with an exponent counted from the first digit. -/
def writeMultiple (mantissa zeros : Nat) : List Char :=
  let ds := digits 10 mantissa
  if ds.length + zeros ≤ 20 then ds ++ List.replicate zeros '0'
  else pointAfterFirst ds ++ 'e' :: digits 10 (ds.length - 1 + zeros)

/-- The characters of a number without its sign. -/
def writeMagnitude (mantissa : Nat) (exponent : Int) : List Char :=
  if mantissa = 0 then ['0']
  else if exponent = 0 then digits 10 mantissa
  else if exponent < 0 then writeFraction mantissa exponent.natAbs
  else writeMultiple mantissa exponent.natAbs

/-- The characters of a number. -/
def write (n : Number) : List Char :=
  (if n.negative then ['-'] else []) ++ writeMagnitude n.mantissa n.exponent

end Number

end RegisterFile.Json

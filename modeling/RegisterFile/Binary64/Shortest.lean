import RegisterFile.Binary64.Basic
import RegisterFile.Text.Numeral

set_option autoImplicit false

/-!
# Shortest decimals

The decimal with the fewest digits that reads back as a given floating-point number.

Every finite number is a decimal. Leaving out digits at its end gives a decimal below the number,
and one more in the last place left a decimal above it. The fewest digits are kept with which one of
the two reads back; of two that read back the nearer one is taken.

## Main definitions

* `Binary64.exact` - a number as a decimal.
* `Binary64.shorten?` - the decimal with some digits fewer that reads back.
* `Binary64.shortest` - the decimal with the fewest digits that reads back.
-/

namespace RegisterFile.Binary64

/-- The decimal equal to `mantissa * 2 ^ exponent`. -/
def exact (mantissa : Nat) (exponent : Int) : Decimal :=
  if 0 ≤ exponent then ⟨mantissa * Nat.pow 2 exponent.toNat, 0⟩
  else ⟨mantissa * Nat.pow 5 (-exponent).toNat, exponent⟩

/-- Which of two equally near decimals is taken. -/
inductive Tie where
  /-- The greater one. -/
  | up
  /-- The one whose last digit is even. -/
  | toEven
  deriving DecidableEq, Repr

/-- The last digit by which a tie between `below` and the decimal above it is broken. -/
def Tie.choose (tie : Tie) (below : Nat) : Nat :=
  match tie with
  | .up => below + 1
  | .toEven => below + below % 2

/-- The decimal with `dropped` digits fewer than `d` next to `d` that reads back as `x`. -/
def shorten? (tie : Tie) (x : Binary64) (d : Decimal) (dropped : Nat) : Option Decimal :=
  let unit := Nat.pow 10 dropped
  let exponent := d.exponent + (dropped : Int)
  let below := d.digits / unit
  let readsBack := fun digits => decide (nearest false ⟨digits, exponent⟩ = x)
  match readsBack below, readsBack (below + 1) with
  | true, true =>
    match compare (2 * (d.digits % unit)) unit with
    | .lt => some ⟨below, exponent⟩
    | .gt => some ⟨below + 1, exponent⟩
    | .eq => some ⟨tie.choose below, exponent⟩
  | true, false => some ⟨below, exponent⟩
  | false, true => some ⟨below + 1, exponent⟩
  | false, false => none

/-- The decimal with the fewest digits that reads back as `mantissa * 2 ^ exponent`. -/
def shortest (tie : Tie) (mantissa : Nat) (exponent : Int) : Decimal :=
  let d := exact mantissa exponent
  let length := (Numeral.digits 10 d.digits).length
  let found := (List.range length).findSome? fun kept =>
    shorten? tie (.finite false mantissa exponent) d (length - 1 - kept)
  found.getD d

end RegisterFile.Binary64

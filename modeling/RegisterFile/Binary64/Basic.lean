set_option autoImplicit false

/-!
# Floating-point numbers of 64 bits

The floating-point number that is nearest to a decimal.

A finite number is a mantissa times a power of two. The mantissa has 53 bits, unless the exponent is
the least one; then it may have fewer. Between two neighbours the nearer one is taken, halfway
between them the one with the even mantissa.

## Main definitions

* `Decimal` - a decimal that is not negative.
* `Binary64` - a floating-point number of 64 bits.
* `Binary64.nearest`, `Binary64.ofInt` - the number that is nearest to a decimal, to an integer.
* `Binary64.agrees` - whether two numbers have the same value.
-/

namespace RegisterFile

/-- A decimal that is not negative: `digits * 10 ^ exponent`. -/
structure Decimal where
  digits : Nat
  exponent : Int
  deriving DecidableEq, Repr

namespace Decimal

/-- The numerator of a decimal as a fraction of natural numbers. -/
def numerator (d : Decimal) : Nat := d.digits * Nat.pow 10 d.exponent.toNat

/-- The denominator of a decimal as a fraction of natural numbers. -/
def denominator (d : Decimal) : Nat := Nat.pow 10 (-d.exponent).toNat

end Decimal

/-- A floating-point number of 64 bits. -/
inductive Binary64 where
  /-- The number `mantissa * 2 ^ exponent`, negated if `negative`. -/
  | finite (negative : Bool) (mantissa : Nat) (exponent : Int)
  /-- Beyond all finite numbers. -/
  | infinite (negative : Bool)
  deriving DecidableEq, Repr

namespace Binary64

/-! ## Rounding -/

/-- The number of bits of a mantissa. -/
def mantissaBits : Nat := 53

/-- The least exponent of a finite number. -/
def leastExponent : Int := -1074

/-- The greatest exponent of a finite number. -/
def greatestExponent : Int := 971

/-- The quotient of two natural numbers, rounded to the nearest one and, halfway between two, to the
even one. -/
def divideToEven (n d : Nat) : Nat :=
  match compare (2 * (n % d)) d with
  | .lt => n / d
  | .gt => n / d + 1
  | .eq => n / d + n / d % 2

/-- The exponent of the greatest power of two that does not exceed `n / d`; both are positive. -/
def binaryExponent (n d : Nat) : Int :=
  let e := (n.log2 : Int) - (d.log2 : Int)
  if d * Nat.pow 2 e.toNat ≤ n * Nat.pow 2 (-e).toNat then e else e - 1

/-- The number with this mantissa and exponent; a mantissa that rounding has made one bit too long
is halved. -/
def assemble (negative : Bool) (mantissa : Nat) (exponent : Int) : Binary64 :=
  let (mantissa, exponent) :=
    if mantissa < Nat.pow 2 mantissaBits then (mantissa, exponent)
    else (mantissa / 2, exponent + 1)
  if exponent ≤ greatestExponent then .finite negative mantissa exponent else .infinite negative

/-- The number that is nearest to a decimal, negated if `negative`. -/
def nearest (negative : Bool) (d : Decimal) : Binary64 :=
  if d.digits = 0 then .finite negative 0 leastExponent
  else
    let n := d.numerator
    let m := d.denominator
    let exponent := max (binaryExponent n m - (mantissaBits - 1 : Nat)) leastExponent
    assemble negative
      (divideToEven (n * Nat.pow 2 (-exponent).toNat) (m * Nat.pow 2 exponent.toNat)) exponent

/-- The number that is nearest to an integer. -/
def ofInt (n : Int) : Binary64 := nearest (n < 0) ⟨n.natAbs, 0⟩

/-! ## Comparing -/

/-- Whether two numbers have the same value. The two zeros do. -/
def agrees : Binary64 → Binary64 → Bool
  | .finite s m e, .finite t n f => m = n ∧ (m = 0 ∨ (s = t ∧ e = f))
  | x, y => x = y

end Binary64

end RegisterFile

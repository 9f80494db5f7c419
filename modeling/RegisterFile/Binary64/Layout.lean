import RegisterFile.Binary64.Shortest

set_option autoImplicit false

/-!
# Layouts of floating-point numbers

How a floating-point number is spelled. All layouts write the digits of the shortest decimal that
reads back; they differ in where the decimal point stands.

A number is written positionally, with zeros up to the decimal point or behind it, or as its leading
digit and the others behind the decimal point, with a power of ten.

## Main definitions

* `Binary64.Layout` - what a layout decides.
* `Binary64.Layout.write` - the spelling of a number.
* `Binary64.printed`, `Binary64.quoted`, `Binary64.described` - the layouts of the program.
-/

namespace RegisterFile.Binary64

open Numeral (digits)

/-- What a layout decides. -/
structure Layout where
  /-- The least and the greatest power of ten of the leading digit with which a number is written
  positionally; without them every number is. -/
  positional : Option (Int × Int)
  /-- Whether an integral number that is written positionally ends in `.0`. -/
  pointZero : Bool
  /-- Whether a plus stands in front of an exponent that is not negative. -/
  exponentPlus : Bool
  /-- Which of two equally near shortest decimals is written. -/
  tie : Tie

namespace Layout

/-- Whether a number is written positionally whose leading digit stands at `power`. -/
def isPositional (l : Layout) (power : Int) : Bool :=
  match l.positional with
  | none => true
  | some (least, greatest) => least ≤ power && power ≤ greatest

/-- The digits `cs`, the first one at `power`, written positionally. -/
def writePositional (l : Layout) (cs : List Char) (power : Int) : List Char :=
  if power < 0 then '0' :: '.' :: List.replicate (-power - 1).toNat '0' ++ cs
  else
    let places := power.toNat + 1
    if cs.length ≤ places then
      cs ++ List.replicate (places - cs.length) '0' ++ if l.pointZero then ['.', '0'] else []
    else cs.take places ++ '.' :: cs.drop places

/-- The digits `cs`, the first one at `power`, written with a power of ten. -/
def writeScientific (l : Layout) (cs : List Char) (power : Int) : List Char :=
  let fraction := if cs.length ≤ 1 then [] else '.' :: cs.drop 1
  let sign := if power < 0 then ['-'] else if l.exponentPlus then ['+'] else []
  cs.take 1 ++ fraction ++ 'e' :: sign ++ digits 10 power.natAbs

/-- The spelling of a decimal. -/
def writeDecimal (l : Layout) (d : Decimal) : List Char :=
  let cs := digits 10 d.digits
  let power := if d.digits = 0 then 0 else (cs.length : Int) - 1 + d.exponent
  let significant := cs.take 1 ++ ((cs.drop 1).reverse.dropWhile (· = '0')).reverse
  if l.isPositional power then l.writePositional significant power
  else l.writeScientific significant power

/-- The minus of a negative number. -/
def sign (negative : Bool) : List Char := if negative then ['-'] else []

/-- The spelling of a number. -/
def write (l : Layout) : Binary64 → List Char
  | .finite negative mantissa exponent =>
    sign negative ++ l.writeDecimal (shortest l.tie mantissa exponent)
  | .infinite negative => sign negative ++ ['i', 'n', 'f']

end Layout

/-! ## The layouts of the program -/

/-- In the output every number is written positionally. -/
def printed : Layout := ⟨none, false, false, .up⟩

/-- In quoted values numbers look like decimals and are written positionally from `0.00001` up to
sixteen places before the decimal point. -/
def quoted : Layout := ⟨some (-5, 15), true, true, .toEven⟩

/-- In descriptions of expressions numbers look like decimals and are written positionally from
`0.0001` up to sixteen places before the decimal point. -/
def described : Layout := ⟨some (-4, 15), true, false, .up⟩

end RegisterFile.Binary64

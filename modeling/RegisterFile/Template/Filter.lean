import RegisterFile.Template.Value
import RegisterFile.Text.Padding
import RegisterFile.Text.Uppercase

set_option autoImplicit false

/-!
# Filters

Filters turn one template value into another: `ljust` pads a text to a width, `vhdl_hex` writes a
number as a bit string literal of VHDL, `upper` writes a text in upper case.

A filter looks at its value first and at its named arguments after that. Arguments it does not know
are passed over.

## Main definitions

* `bitString` - a number as a bit string literal of so many bits.
* `Template.FilterFault`, `Template.FilterFault.message` - why a filter refuses its value or an
  argument.
* `Template.Filter`, `Template.filter?` - a filter and the filter of a name.
-/

namespace RegisterFile

/-! ## Bit string literals -/

/-- How many digits a bit string literal of `bits` bits has: one for four bits where four divides
`bits`, otherwise one for each. -/
def bitStringDigits (bits : Nat) : Nat :=
  if bits % 4 = 0 then bits / 4 else bits

/-- The number `value` as a bit string literal of at least `bits` bits: hexadecimal where four
divides `bits`, otherwise binary. Its digits are never cut. -/
def bitString (bits value : Nat) : Except Text.FieldTooWide String := do
  let count ← Text.fieldWidth (bitStringDigits bits)
  if bits % 4 = 0 then
    return String.ofList
      ('x' :: '"' :: Numeral.zeroPadded count (Numeral.upperDigits 16 value) ++ ['"'])
  else
    return String.ofList ('"' :: Numeral.zeroPadded count (Numeral.digits 2 value) ++ ['"'])

namespace Template

/-! ## Refusals -/

/-- What a filter expects its value to be. -/
inductive Kind where
  | text
  | word
  deriving DecidableEq, Repr

/-- The wording of an expectation. -/
def Kind.describe : Kind → String
  | .text => "String"
  | .word => "u64"

/-- Why a filter refuses its value or an argument. -/
inductive FilterFault where
  /-- The value is not of the expected kind. -/
  | unexpectedValue (filter : String) (value : Value) (expected : Kind)
  | missingArgument (filter argument : String)
  /-- An argument is not of the right kind. -/
  | unexpectedArgument (filter argument : String) (value : Value)

/-- The wording of a refusal. -/
def FilterFault.message : FilterFault → String
  | .unexpectedValue filter value expected =>
    s!"Filter `{filter}` was called on an incorrect value: got `{value.quote}` but expected a " ++
      expected.describe
  | .missingArgument filter argument =>
    s!"Filter `{filter}` expected an arg called `{argument}`"
  | .unexpectedArgument filter argument value =>
    s!"Filter `{filter}` received an incorrect type for arg `{argument}`: got `{value.quote}`"

/-- Why a filter yields no value. -/
inductive FilterStop where
  | refused (fault : FilterFault)
  | tooWide (fault : Text.FieldTooWide)

/-! ## Filters -/

/-- The named arguments of a filter. -/
abbrev Arguments := List (String × Value)

/-- A filter. -/
abbrev Filter := Value → Arguments → Except FilterStop Value

/-- The text that a filter expects as its value. -/
def textValue (filter : String) : Value → Except FilterStop String
  | .text s => .ok s
  | v => .error (.refused (.unexpectedValue filter v .text))

/-- The number that a filter expects as its value. -/
def wordValue (filter : String) : Value → Except FilterStop Nat
  | .integer (.ofNat n) => .ok n
  | v => .error (.refused (.unexpectedValue filter v .word))

/-- The number that a filter expects as an argument. -/
def wordArgument (filter argument : String) (arguments : Arguments) : Except FilterStop Nat :=
  match arguments.lookup argument with
  | none => .error (.refused (.missingArgument filter argument))
  | some (.integer (.ofNat n)) => .ok n
  | some v => .error (.refused (.unexpectedArgument filter argument v))

/-- Pad a text with spaces to the width given as `width`. -/
def ljust : Filter := fun v arguments => do
  let s ← textValue "ljust" v
  let requested ← wordArgument "ljust" "width" arguments
  let width ← (Text.fieldWidth requested).mapError .tooWide
  return .text (Text.padEnd width s)

/-- Write a number as a bit string literal of the width given as `bits`. -/
def vhdlHex : Filter := fun v arguments => do
  let n ← wordValue "vhdl_hex" v
  let bits ← wordArgument "vhdl_hex" "bits" arguments
  let literal ← (bitString bits n).mapError .tooWide
  return .text literal

/-- Write a text in upper case. -/
def upper : Filter := fun v _ => do
  let s ← textValue "upper" v
  return .text (Text.uppercase s)

/-- The filter of a name. -/
def filter? (name : String) : Option Filter :=
  [("ljust", ljust), ("vhdl_hex", vhdlHex), ("upper", upper)].lookup name

end Template

end RegisterFile

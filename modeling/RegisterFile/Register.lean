import RegisterFile.Json.Writer
import RegisterFile.Text.Numeral

set_option autoImplicit false

/-!
# Registers

A register is one addressable location of a register file, with an access mode and a value on
reset.

## Main definitions

* `Mode`, `Access`, `Mode.access?` - access modes and the three that have a meaning in hardware.
* `Register` - a register; its label is not empty.
* `RegisterFault` - why a register is refused.
* `Register.create`, `Register.ofIntegers` - registers from 64-bit words and from integers.
-/

namespace RegisterFile

/-! ## Modes -/

/-- How the bus and the hardware access a register. -/
inductive Access where
  /-- Driven by the hardware, read-only on the bus. -/
  | status
  /-- Pulses when written, reads as zero. -/
  | trigger
  /-- Readable and writable on the bus. -/
  | control
  deriving DecidableEq, Repr

/-- The access mode of a register as declared: any text. -/
structure Mode where
  tag : String
  deriving DecidableEq, Repr

/-- The text that declares an access. -/
def Access.tag : Access → String
  | .status => "stat"
  | .trigger => "trig"
  | .control => "ctrl"

/-- The access that a mode stands for, if it is one of the three. -/
def Mode.access? (m : Mode) : Option Access :=
  if m.tag = Access.status.tag then some .status
  else if m.tag = Access.trigger.tag then some .trigger
  else if m.tag = Access.control.tag then some .control
  else none

/-- Whether a mode is one of the three that have a meaning in hardware. -/
def Mode.isKnown (m : Mode) : Bool := m.access?.isSome

/-! ## Registers -/

/-- A register. -/
structure Register where
  /-- The index in the register file, not a byte address. -/
  address : UInt64
  /-- The name of the register. -/
  label : String
  /-- The access mode. -/
  mode : Mode
  /-- The value on reset. -/
  initval : UInt64
  /-- A register has a name. -/
  label_ne : label ≠ ""
  deriving DecidableEq, Repr

/-- The integer fields of a register. -/
inductive RegisterField where
  | address
  | initval
  deriving DecidableEq, Repr

/-- The name of an integer field. -/
def RegisterField.name : RegisterField → String
  | .address => "address"
  | .initval => "initval"

/-- Why a register is refused. -/
inductive RegisterFault where
  /-- The label is empty. -/
  | emptyLabel (address : UInt64)
  /-- A field is negative. -/
  | negative (label : String) (field : RegisterField) (value : Int)
  /-- A field does not fit in 64 bits. -/
  | tooLarge (label : String) (field : RegisterField) (value : Int)
  deriving DecidableEq, Repr

/-- The wording of a refusal. -/
def RegisterFault.message : RegisterFault → String
  | .emptyLabel address =>
    s!"register at address {Numeral.hex address.toNat} has an empty label"
  | .negative label field value => s!"register '{label}' has a negative {field.name}: {value}"
  | .tooLarge label field value =>
    s!"register '{label}' has a {field.name} that does not fit in 64 bits: {value}"

/-- An integer as a 64-bit word. -/
def wordOfInt (value : Int) (label : String) (field : RegisterField) :
    Except RegisterFault UInt64 :=
  if value < 0 then .error (.negative label field value)
  else if value < UInt64.size then .ok (UInt64.ofNat value.toNat)
  else .error (.tooLarge label field value)

namespace Register

/-- A register with the given fields. -/
def create (address : UInt64) (label : String) (mode : Mode) (initval : UInt64) :
    Except RegisterFault Register :=
  if h : label = "" then .error (.emptyLabel address)
  else .ok ⟨address, label, mode, initval, h⟩

/-- A register whose fields are given as integers. The address is checked first, then the value on
reset, then the label. -/
def ofIntegers (address : Int) (label : String) (mode : Mode) (initval : Int) :
    Except RegisterFault Register := do
  let address ← wordOfInt address label .address
  let initval ← wordOfInt initval label .initval
  create address label mode initval

/-- The number of characters of the label. -/
def labelWidth (r : Register) : Nat := r.label.length

/-- The wording of a register. -/
def describe (r : Register) : String :=
  s!"\x7b address: {Numeral.hex r.address.toNat}, label: {r.label}, mode: {r.mode.tag}, " ++
    s!"initval: {Numeral.hex r.initval.toNat} \x7d"

/-- A register as a JSON object, under the names that templates use. -/
def toJson (r : Register) : Json.Value :=
  .object [
    ("addr", .ofNat r.address.toNat),
    ("label", .text r.label),
    ("mode", .text r.mode.tag),
    ("initval", .ofNat r.initval.toNat)]

end Register

end RegisterFile

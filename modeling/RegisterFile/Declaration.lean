import RegisterFile.IntegerLiteral
import RegisterFile.Json.Reader
import RegisterFile.Register
import RegisterFile.Width

set_option autoImplicit false

/-!
# Declarations

A declaration names a hardware module, the width of its registers and the registers themselves. It
is read from JSON text such as

    { "module": "regfile", "register_width": 32, "registers": [
        { "address": 0, "label": "status", "mode": "stat" },
        { "address": 2, "label": "ctrl1", "mode": "ctrl", "initval": "0x2a" } ] }

The width defaults to 32 and the value on reset to zero. An integer is given as a JSON number
without exponent or as a string that holds an integer literal. Other members are passed over.

## Main definitions

* `Declaration` - a declaration; its width is any 32-bit word until it is planned.
* `DeclarationFault`, `DeclarationFault.messages` - why a text is no declaration.
* `Declaration.ofJson`, `Declaration.parse` - reading.
* `Declaration.toJson` - writing.
* `Declaration.sample` - a small declaration with each of the three accesses.
-/

namespace RegisterFile

/-- A register file as declared. -/
structure Declaration where
  moduleName : String
  registerWidth : UInt32
  registers : List Register
  deriving DecidableEq, Repr

/-! ## Faults -/

/-- A part of a declaration that faults refer to. -/
inductive DeclarationPart where
  /-- The declaration as a whole. -/
  | whole
  /-- A member of the declaration. -/
  | member (name : String)
  /-- The register at an index of the array. -/
  | register (index : Nat)
  /-- A member of the register at an index. -/
  | registerMember (index : Nat) (name : String)
  deriving DecidableEq, Repr

/-- The wording of a part. -/
def DeclarationPart.describe : DeclarationPart → String
  | .whole => "register file"
  | .member name => name
  | .register index => s!"register #{index}"
  | .registerMember index name => s!"register #{index}: {name}"

/-- Why a text is no declaration. -/
inductive DeclarationFault where
  /-- The text is not JSON. -/
  | malformed (cause : Json.SyntaxError)
  | expectedObject (part : DeclarationPart)
  | expectedArray (part : DeclarationPart)
  | expectedText (part : DeclarationPart)
  | missing (part : DeclarationPart)
  /-- A member is no integer; `found` is its JSON text. -/
  | invalidInteger (name : String) (found : String)
  /-- The width does not fit in 32 bits. -/
  | widthTooLarge (width : Int)
  /-- The register at an index is refused. -/
  | invalidRegister (index : Nat) (cause : RegisterFault)
  deriving DecidableEq, Repr

/-- The wording of a fault and of its causes, outermost first. -/
def DeclarationFault.messages : DeclarationFault → List String
  | .malformed cause => ["malformed JSON", cause.message]
  | .expectedObject part => [s!"expected an object for {part.describe}"]
  | .expectedArray part => [s!"expected an array for {part.describe}"]
  | .expectedText part => [s!"expected a string for {part.describe}"]
  | .missing part => [s!"field '{part.describe}' not found"]
  | .invalidInteger name found => [s!"cannot parse an integer for '{name}' from {found}"]
  | .widthTooLarge width => [s!"register width {width} does not fit in 32 bits"]
  | .invalidRegister index cause => [s!"register #{index} is invalid", cause.message]

/-! ## Reading -/

/-- The member of an object that is bound to `name`. -/
def requiredMember (part : DeclarationPart) (name : String) (members : Json.Members) :
    Except DeclarationFault Json.Value :=
  match Json.member? name members with
  | some v => .ok v
  | none => .error (.missing part)

/-- The text that is bound to `name`. -/
def requiredText (part : DeclarationPart) (name : String) (members : Json.Members) :
    Except DeclarationFault String := do
  let v ← requiredMember part name members
  match v.text? with
  | some s => return s
  | none => .error (.expectedText part)

/-- The integer that a JSON value stands for. -/
def integer? : Json.Value → Option Int
  | .number n => n.toInt?
  | .text s => IntegerLiteral.parse? s
  | _ => none

/-- The integer that the value of the member `name` stands for. -/
def requiredInteger (name : String) (v : Json.Value) : Except DeclarationFault Int :=
  match integer? v with
  | some n => .ok n
  | none => .error (.invalidInteger name v.compact)

/-- The integer that is bound to `name`, or a standard value if nothing is. -/
def integerOr (standard : Int) (name : String) (members : Json.Members) :
    Except DeclarationFault Int :=
  match Json.member? name members with
  | some v => requiredInteger name v
  | none => .ok standard

/-- A register from the members of its object. -/
def Register.ofMembers (index : Nat) (members : Json.Members) :
    Except DeclarationFault Register := do
  let part := DeclarationPart.registerMember index
  let address ← requiredInteger "address" (← requiredMember (part "address") "address" members)
  let label ← requiredText (part "label") "label" members
  let mode ← requiredText (part "mode") "mode" members
  let initval ← integerOr 0 "initval" members
  match Register.ofIntegers address label ⟨mode⟩ initval with
  | .ok r => return r
  | .error cause => .error (.invalidRegister index cause)

/-- Registers from the items of an array; the first of them stands at `index`. -/
def registersFrom (index : Nat) : List Json.Value → Except DeclarationFault (List Register)
  | [] => .ok []
  | .object members :: vs => do
    let r ← Register.ofMembers index members
    let rs ← registersFrom (index + 1) vs
    return r :: rs
  | _ :: _ => .error (.expectedObject (.register index))

/-- A register width from an integer. -/
def widthOfInt (width : Int) : Except DeclarationFault UInt32 :=
  if 0 ≤ width ∧ width < UInt32.size then .ok (UInt32.ofNat width.toNat)
  else .error (.widthTooLarge width)

namespace Declaration

/-- The declaration that a JSON value holds. -/
def ofJson : Json.Value → Except DeclarationFault Declaration
  | .object members => do
    let moduleName ← requiredText (.member "module") "module" members
    let width ← integerOr RegisterWidth.standard.bits "register_width" members
    let registerWidth ← widthOfInt width
    match ← requiredMember (.member "registers") "registers" members with
    | .array items => return ⟨moduleName, registerWidth, ← registersFrom 0 items⟩
    | _ => .error (.expectedArray (.member "registers"))
  | _ => .error (.expectedObject .whole)

/-- The declaration that a text holds. -/
def parse (text : String) : Except DeclarationFault Declaration :=
  match Json.parse text with
  | .ok v => ofJson v
  | .error cause => .error (.malformed cause)

/-! ## Writing -/

/-- A register as a JSON object that a declaration may hold. -/
def registerToJson (r : Register) : Json.Value :=
  .object [
    ("address", .ofNat r.address.toNat),
    ("label", .text r.label),
    ("mode", .text r.mode.tag),
    ("initval", .text (Numeral.hex r.initval.toNat))]

/-- The JSON value of a declaration. -/
def toJson (d : Declaration) : Json.Value :=
  .object [
    ("module", .text d.moduleName),
    ("register_width", .ofNat d.registerWidth.toNat),
    ("registers", .array (d.registers.map registerToJson))]

/-! ## An example -/

/-- A declaration with one register of each access. -/
def sample : Declaration where
  moduleName := "regfile"
  registerWidth := 32
  registers := [
    ⟨0, "status", ⟨Access.status.tag⟩, 0, by decide⟩,
    ⟨1, "start", ⟨Access.trigger.tag⟩, 0, by decide⟩,
    ⟨2, "ctrl1", ⟨Access.control.tag⟩, 0, by decide⟩]

end Declaration

end RegisterFile

import RegisterFile.Plan
import RegisterFile.Text.Padding

set_option autoImplicit false

/-!
# Register tables

The registers of a plan as lines of text, one for each register: address, label, mode and value on
reset. Addresses have at least four digits, labels are filled up to the label column of the plan and
modes to four characters.

## Main definitions

* `Sorting` - the order of the lines.
* `Plan.sorted` - the registers in that order.
* `registerLine` - the line of a register.
* `registerTable` - the lines of a plan.
-/

namespace RegisterFile

/-- The order of a register table. -/
inductive Sorting where
  /-- As declared. -/
  | preserve
  /-- By address. -/
  | address
  /-- By label, character by character. -/
  | alpha
  deriving DecidableEq, Repr

/-- The registers of a plan in the given order. -/
def Plan.sorted (p : Plan) : Sorting → List Register
  | .preserve => p.registers
  | .address => p.registers.mergeSort fun a b => a.address ≤ b.address
  | .alpha => p.registers.mergeSort fun a b => !decide (b.label < a.label)

/-- The line of a register, whose label is filled up to `column` characters. -/
def registerLine (column : Nat) (r : Register) : String :=
  Numeral.paddedHex 6 r.address.toNat ++ " " ++ Text.padEnd column r.label ++ " " ++
    Text.padEnd 4 r.mode.tag ++ " " ++ Numeral.hex r.initval.toNat

/-- The lines of a plan in the given order. -/
def registerTable (p : Plan) (sorting : Sorting) : Except Text.FieldTooWide (List String) := do
  let column ← Text.fieldWidth p.labelColumn
  return (p.sorted sorting).map (registerLine column)

end RegisterFile

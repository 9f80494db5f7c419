import RegisterFile.Register
import RegisterFile.Width

set_option autoImplicit false

/-!
# Plans

A plan is a set of registers with the geometry of its address space: how many bits select a
register, how wide a byte address on the bus is, and where each register lies.

The address space is padded to the least power of two that holds every register index, and byte
addresses fit in 64 bits. Planning checks the registers in a fixed order and reports the first
condition that fails.

## Main definitions

* `Admissible` - what makes a list of registers a register file of a width.
* `Plan` - an admissible list of registers under a module name.
* `PlanFault`, `PlanFault.messages` - why registers cannot be planned.
* `plan` - the plan of a list of registers.

## Main results

* `firstRepeat?_eq_none_iff` - no repeat is found exactly where the keys are pairwise different.
-/

namespace RegisterFile

/-! ## Repeated keys -/

/-- The first element of a list whose key an element of `seen` or an earlier one has, behind the
element whose key it repeats. -/
def repeatAfter? {α κ : Type} [DecidableEq κ] (key : α → κ) (seen : List α) :
    List α → Option (α × α)
  | [] => none
  | x :: xs =>
    match seen.find? fun y => key y = key x with
    | some y => some (y, x)
    | none => repeatAfter? key (x :: seen) xs

/-- The first element of a list that repeats an earlier one's key, behind that earlier one. -/
def firstRepeat? {α κ : Type} [DecidableEq κ] (key : α → κ) (xs : List α) : Option (α × α) :=
  repeatAfter? key [] xs

/-- No repeat is found exactly where the keys differ from each other and from those seen. -/
theorem repeatAfter?_eq_none_iff {α κ : Type} [DecidableEq κ] (key : α → κ) (seen xs : List α) :
    repeatAfter? key seen xs = none ↔
      (xs.map key).Nodup ∧ ∀ x ∈ xs, ∀ y ∈ seen, key y ≠ key x := by
  induction xs generalizing seen with
  | nil => simp [repeatAfter?]
  | cons x xs ih =>
    unfold repeatAfter?
    split
    · rename_i y hy
      have hmem := List.mem_of_find?_eq_some hy
      have hkey := List.find?_some hy
      simp only [decide_eq_true_eq] at hkey
      simp only [reduceCtorEq, List.mem_cons, forall_eq_or_imp, false_iff, not_and]
      intro _ h _
      exact absurd hkey (h y hmem)
    · rename_i hnone
      have hseen : ∀ y ∈ seen, key y ≠ key x := by simpa using hnone
      rw [ih]
      simp only [List.map_cons, List.nodup_cons, List.mem_map, List.mem_cons, forall_eq_or_imp]
      constructor
      · rintro ⟨hnodup, hall⟩
        refine ⟨⟨?_, hnodup⟩, hseen, fun z hz => (hall z hz).2⟩
        rintro ⟨z, hz, hzx⟩
        exact (hall z hz).1 hzx.symm
      · rintro ⟨⟨hx, hnodup⟩, _, hall⟩
        exact ⟨hnodup, fun z hz => ⟨fun h => hx ⟨z, hz, h.symm⟩, hall z hz⟩⟩

/-- No repeat is found exactly where the keys are pairwise different. -/
theorem firstRepeat?_eq_none_iff {α κ : Type} [DecidableEq κ] (key : α → κ) (xs : List α) :
    firstRepeat? key xs = none ↔ (xs.map key).Nodup := by
  simp [firstRepeat?, repeatAfter?_eq_none_iff]

/-! ## The geometry of a list of registers -/

/-- The largest address of a list of registers, zero for the empty list. -/
def greatestAddress (registers : List Register) : Nat :=
  registers.foldr (fun r n => max r.address.toNat n) 0

/-- The number of bits that select a register of the list. -/
def addressBits (registers : List Register) : Nat :=
  bitsRequired (greatestAddress registers)

/-- The length of the longest label of a list of registers. -/
def longestLabel (registers : List Register) : Nat :=
  registers.foldr (fun r n => max r.labelWidth n) 0

/-- The widest byte address on the bus. -/
def widestAddress : Nat := 64

/-- What makes a list of registers a register file of a width. -/
structure Admissible (width : RegisterWidth) (registers : List Register) : Prop where
  /-- There is a register. -/
  nonempty : registers ≠ []
  /-- No two registers share an address. -/
  addresses_nodup : (registers.map Register.address).Nodup
  /-- No two registers share a label; labels that differ in case are different. -/
  labels_nodup : (registers.map Register.label).Nodup
  /-- Every value on reset can be stored. -/
  representable : ∀ r ∈ registers, width.canRepresent r.initval = true
  /-- A byte address fits on the bus. -/
  address_fits : addressBits registers + width.log2Bytes ≤ widestAddress
  /-- The number of register slots fits in 64 bits. -/
  slots_fit : addressBits registers < 64

/-- The registers of a hardware module, fit to share an address space. -/
structure Plan where
  moduleName : String
  width : RegisterWidth
  /-- The registers in the order of their declaration. -/
  registers : List Register
  admissible : Admissible width registers

namespace Plan

/-- The number of bits that select a register, without those of the byte offset. -/
def addressBits (p : Plan) : Nat := RegisterFile.addressBits p.registers

/-- The number of bits of a byte address on the bus. -/
def busAddressBits (p : Plan) : Nat := p.addressBits + p.width.log2Bytes

/-- The number of register slots: a power of two. -/
def slots (p : Plan) : Nat := Nat.pow 2 p.addressBits

/-- The width of a column of labels. -/
def labelColumn (p : Plan) : Nat := longestLabel p.registers

/-- The byte address of a register on the bus. -/
def byteOffset (p : Plan) (r : Register) : Nat := r.address.toNat <<< p.width.log2Bytes

/-! ## Summaries -/

/-- A register and its place in the plan as a JSON object. -/
def registerToJson (p : Plan) (r : Register) : Json.Value :=
  .object [
    ("address", .ofNat r.address.toNat),
    ("byte_offset", .text (Numeral.hex (p.byteOffset r))),
    ("label", .text r.label),
    ("mode", .text r.mode.tag),
    ("initval", .text (Numeral.hex r.initval.toNat))]

/-- The geometry of a plan as a JSON value. -/
def toJson (p : Plan) : Json.Value :=
  .object [
    ("module_name", .text p.moduleName),
    ("register_width", .ofNat p.width.bits),
    ("register_byte_width", .ofNat p.width.byteWidth),
    ("log2_register_byte_width", .ofNat p.width.log2Bytes),
    ("addr_bits", .ofNat p.addressBits),
    ("axi_addr_width", .ofNat p.busAddressBits),
    ("num_registers", .ofNat p.slots),
    ("label_column_width", .ofNat p.labelColumn),
    ("registers", .array (p.registers.map p.registerToJson))]

end Plan

/-! ## Planning -/

/-- Why registers cannot be planned. -/
inductive PlanFault where
  | noRegisters
  | invalidWidth (bits : UInt32)
  /-- Two registers share an address; the labels are in the order of declaration. -/
  | duplicateAddress (address : UInt64) (first second : String)
  /-- Two registers share a label; the addresses are in the order of declaration. -/
  | duplicateLabel (label : String) (first second : UInt64)
  /-- A value on reset does not fit in the width. -/
  | valueOutOfRange (address : UInt64) (label : String) (initval : UInt64) (width : RegisterWidth)
  /-- The address space is too large. -/
  | addressTooWide (addressBits log2Bytes : Nat)
  deriving DecidableEq, Repr

/-- The wording of a fault and of its causes, outermost first. -/
def PlanFault.messages : PlanFault → List String
  | .noRegisters => ["zero registers were supplied, cannot plan an empty register file"]
  | .invalidWidth bits => ["invalid register width",
      s!"register width must be a power of two and at least 8 bits, got {bits}"]
  | .duplicateAddress address first second =>
    [s!"registers '{first}' and '{second}' share address {Numeral.hex address.toNat}"]
  | .duplicateLabel label first second =>
    [s!"label '{label}' is declared at both {Numeral.hex first.toNat} and " ++
      Numeral.hex second.toNat]
  | .valueOutOfRange address label initval width =>
    [s!"reset value {Numeral.hex initval.toNat} of register '{label}' at " ++
      s!"{Numeral.hex address.toNat} does not fit in {width.bits} bits"]
  | .addressTooWide addressBits log2Bytes =>
    [s!"overflow: {addressBits} register index bits + {log2Bytes} byte offset bits do not fit a " ++
      "64-bit bus address"]

/-- The plan of a list of registers of `bits` bits each. The conditions are checked in this order:
there is a register, the width is valid, addresses differ, labels differ, values on reset fit, the
address space fits. -/
def plan (moduleName : String) (registers : List Register) (bits : UInt32) :
    Except PlanFault Plan :=
  if nonempty : registers = [] then .error .noRegisters
  else
    match RegisterWidth.ofBits? bits with
    | none => .error (.invalidWidth bits)
    | some width =>
      match addresses : firstRepeat? Register.address registers with
      | some (a, b) => .error (.duplicateAddress b.address a.label b.label)
      | none =>
        match labels : firstRepeat? Register.label registers with
        | some (a, b) => .error (.duplicateLabel b.label a.address b.address)
        | none =>
          match values : registers.find? fun r => !width.canRepresent r.initval with
          | some r => .error (.valueOutOfRange r.address r.label r.initval width)
          | none =>
            if fits : addressBits registers + width.log2Bytes ≤ widestAddress ∧
                addressBits registers < 64 then
              .ok {
                moduleName, width, registers
                admissible := {
                  nonempty
                  addresses_nodup := (firstRepeat?_eq_none_iff _ _).mp addresses
                  labels_nodup := (firstRepeat?_eq_none_iff _ _).mp labels
                  representable := by simpa using values
                  address_fits := fits.1
                  slots_fit := fits.2 } }
            else
              .error (.addressTooWide (addressBits registers) width.log2Bytes)

end RegisterFile

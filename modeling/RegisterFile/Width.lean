set_option autoImplicit false

/-!
# Register widths

The width of the registers of a register file and of its data bus: a power of two of at least one
byte that fits in 32 bits.

## Main definitions

* `bitsRequired` - how many binary digits a number has.
* `RegisterWidth` - a width, given by the logarithm of its bytes.
* `RegisterWidth.bits`, `RegisterWidth.byteWidth` - a width in bits and in bytes.
* `RegisterWidth.ofBits?` - the width of so many bits, if there is one.
* `RegisterWidth.canRepresent` - whether a value can be stored in a register.
-/

namespace RegisterFile

/-- The number of binary digits of `n`, none for zero: the least width that can hold `n`. -/
def bitsRequired (n : Nat) : Nat :=
  if n = 0 then 0 else n.log2 + 1

/-- The width of a register. -/
structure RegisterWidth where
  /-- The base-two logarithm of the width in bytes. -/
  log2Bytes : Nat
  /-- The width in bits fits in 32 bits. -/
  log2Bytes_le : log2Bytes ≤ 28
  deriving DecidableEq, Repr

namespace RegisterWidth

/-- The width in bytes: the distance between the byte addresses of neighbouring registers. -/
def byteWidth (w : RegisterWidth) : Nat := Nat.pow 2 w.log2Bytes

/-- The width in bits. -/
def bits (w : RegisterWidth) : Nat := 8 * w.byteWidth

/-- The width used when none is given: 32 bits. -/
def standard : RegisterWidth := ⟨2, by decide⟩

/-- A power of two below `2 ^ 32` has an exponent below 32. -/
theorem log2_lt_of_pow_eq {k : Nat} {bits : UInt32} (h : Nat.pow 2 k = bits.toNat) :
    k < 32 := by
  have hlt : Nat.pow 2 k < Nat.pow 2 32 := by rw [h]; exact bits.toNat_lt
  exact (Nat.pow_lt_pow_iff_right (by decide)).mp hlt

/-- The width of `bits` bits, if that is a power of two of at least one byte. -/
def ofBits? (bits : UInt32) : Option RegisterWidth :=
  if h : 8 ≤ bits.toNat ∧ Nat.pow 2 bits.toNat.log2 = bits.toNat then
    some ⟨bits.toNat.log2 - 3, by have := log2_lt_of_pow_eq h.2; omega⟩
  else
    none

/-- Whether `value` can be stored in a register of this width. -/
def canRepresent (w : RegisterWidth) (value : UInt64) : Bool :=
  bitsRequired value.toNat ≤ w.bits

/-- The wording of a width. -/
def describe (w : RegisterWidth) : String := s!"{w.bits} bits"

end RegisterWidth

end RegisterFile

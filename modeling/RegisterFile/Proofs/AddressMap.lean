import Mathlib.Order.Interval.Set.Basic
import RegisterFile.Proofs.PlanOutcome

set_option autoImplicit false

/-!
# The address map of a plan

A byte address on the bus is a slot index above a byte offset. The registers of a plan lie in
windows of one register's bytes each, and the slot that a byte address selects is the address of the
register in whose window it lies. So the windows partition what is used of the address space, and no
byte address selects two registers.

## Main definitions

* `Plan.window` - the byte addresses of a register.
* `Plan.slotOf` - the slot that a byte address selects.
* `Plan.MapsAddresses` - the laws of the address map.

## Main results

* `Plan.isLeast_slots` - the slots are the least power of two above every register's address.
* `Plan.mem_window_iff` - a byte address lies in a window exactly if it selects its register.
* `mapsAddresses_of_plan` - the address map of every plan obeys its laws.
-/

namespace RegisterFile

namespace Plan

variable (p : Plan)

/-- The byte addresses of a register. -/
def window (r : Register) : Set Nat :=
  Set.Ico (p.byteOffset r) (p.byteOffset r + p.width.byteWidth)

/-- The slot that a byte address on the bus selects: the number that the bits above its byte offset
spell. -/
def slotOf (a : BitVec p.busAddressBits) : Nat :=
  (a.extractLsb' p.width.log2Bytes (p.busAddressBits - p.width.log2Bytes)).toNat

/-! ## Sizes -/

/-- The bits of a byte address are those that select a slot above those of the byte offset. -/
lemma busAddressBits_sub_log2Bytes : p.busAddressBits - p.width.log2Bytes = p.addressBits := by
  rw [busAddressBits, Nat.add_sub_cancel]

/-- The address of a register is below the number of slots. -/
lemma address_lt_slots {r : Register} (hr : r ∈ p.registers) : r.address.toNat < p.slots :=
  (address_le_greatestAddress hr).trans_lt (lt_two_pow_bitsRequired _)

/-- The number of slots is a power of two. -/
lemma slots_eq_two_pow : p.slots = 2 ^ p.addressBits := rfl

/-- The slots are the least power of two that is greater than the address of each register. -/
theorem isLeast_slots :
    IsLeast {n | (∃ k, n = 2 ^ k) ∧ ∀ r ∈ p.registers, r.address.toNat < n} p.slots := by
  refine ⟨⟨⟨_, rfl⟩, fun r hr => p.address_lt_slots hr⟩, ?_⟩
  rintro n ⟨⟨k, rfl⟩, hall⟩
  obtain ⟨r, hr, hmax⟩ := exists_address_eq_greatestAddress p.admissible.nonempty
  have hk : p.addressBits ≤ k := (bitsRequired_le_iff _ _).mpr (hmax ▸ hall r hr)
  exact Nat.pow_le_pow_right (by decide) hk

/-- The bytes of all slots are the byte addresses on the bus. -/
lemma slots_mul_byteWidth : p.slots * p.width.byteWidth = 2 ^ p.busAddressBits :=
  (pow_add 2 _ _).symm

/-- A register lies its address times the bytes of a register behind the start. -/
lemma byteOffset_eq (r : Register) : p.byteOffset r = r.address.toNat * p.width.byteWidth :=
  Nat.shiftLeft_eq _ _

/-- The byte offset of any 64-bit address has 92 bits. -/
lemma byteOffset_lt (r : Register) : p.byteOffset r < 2 ^ 92 := by
  rw [byteOffset_eq, RegisterWidth.byteWidth_eq_two_pow]
  calc r.address.toNat * 2 ^ p.width.log2Bytes
      < 2 ^ 64 * 2 ^ p.width.log2Bytes :=
        Nat.mul_lt_mul_of_pos_right r.address.toNat_lt (by positivity)
    _ ≤ 2 ^ 64 * 2 ^ 28 :=
        Nat.mul_le_mul_left _ (Nat.pow_le_pow_right (by decide) p.width.log2Bytes_le)

/-! ## Windows and slots -/

/-- The slot of a byte address is the address without the bits of the byte offset. -/
lemma slotOf_eq_shiftRight (a : BitVec p.busAddressBits) :
    p.slotOf a = a.toNat >>> p.width.log2Bytes := by
  rw [slotOf, BitVec.extractLsb'_toNat, busAddressBits_sub_log2Bytes]
  refine Nat.mod_eq_of_lt ?_
  rw [Nat.shiftRight_eq_div_pow, Nat.div_lt_iff_lt_mul (by positivity), ← pow_add]
  exact a.isLt

/-- Every byte address on the bus selects one of the slots. -/
lemma slotOf_lt_slots (a : BitVec p.busAddressBits) : p.slotOf a < p.slots := by
  rw [slots_eq_two_pow, ← busAddressBits_sub_log2Bytes]
  exact BitVec.isLt _

/-- A byte address lies in the window of a register exactly if it is the register's address above
any byte offset. -/
theorem mem_window_iff (r : Register) (a : Nat) :
    a ∈ p.window r ↔ a >>> p.width.log2Bytes = r.address.toNat := by
  have hpos : 0 < p.width.byteWidth := Nat.two_pow_pos _
  rw [window, Set.mem_Ico, byteOffset_eq, Nat.shiftRight_eq_div_pow,
    ← RegisterWidth.byteWidth_eq_two_pow,
    Nat.div_eq_iff hpos]
  omega

/-- The window of a register lies among the byte addresses on the bus. -/
lemma window_subset {r : Register} (hr : r ∈ p.registers) :
    p.window r ⊆ Set.Iio (2 ^ p.busAddressBits) := by
  intro a ha
  rw [Set.mem_Iio, ← slots_mul_byteWidth]
  have hlt := p.address_lt_slots hr
  rw [← (p.mem_window_iff r a).mp ha, Nat.shiftRight_eq_div_pow] at hlt
  exact Nat.lt_mul_of_div_lt hlt (Nat.two_pow_pos _)

/-- The windows of different registers have no byte address in common. -/
lemma pairwise_disjoint_window :
    p.registers.Pairwise fun r s => p.window r ∩ p.window s = ∅ := by
  refine (List.pairwise_map.mp p.admissible.addresses_nodup).imp fun {r s} hne => ?_
  rw [Set.eq_empty_iff_forall_notMem]
  rintro a ⟨hr, hs⟩
  rw [mem_window_iff] at hr hs
  exact hne (UInt64.toNat_inj.mp (hr.symm.trans hs))

/-- Registers of a plan with the same address are the same. -/
lemma eq_of_address_eq {r s : Register} (hr : r ∈ p.registers) (hs : s ∈ p.registers)
    (h : r.address.toNat = s.address.toNat) : r = s :=
  List.inj_on_of_nodup_map p.admissible.addresses_nodup hr hs (UInt64.toNat_inj.mp h)

/-! ## The address map -/

/-- The laws of the address map of `registers` of `bits` bits each. -/
structure MapsAddresses (registers : List Register) (bits : UInt32) : Prop where
  /-- The slots are the least power of two that is greater than the address of each register. -/
  isLeast_slots :
    IsLeast {n | (∃ k, n = 2 ^ k) ∧ ∀ r ∈ registers, r.address.toNat < n} p.slots
  /-- So many bits select a slot. -/
  slots_eq : p.slots = 2 ^ p.addressBits
  /-- The bytes of a register are an eighth of its bits, -/
  bits_eq : bits.toNat = 8 * p.width.byteWidth
  /-- and so many bits select one of them. -/
  byteWidth_eq : p.width.byteWidth = 2 ^ p.width.log2Bytes
  /-- The slots fill the byte addresses on the bus. -/
  slots_mul_byteWidth : p.slots * p.width.byteWidth = 2 ^ p.busAddressBits
  /-- Byte offsets are exact, -/
  byteOffset_eq : ∀ r ∈ registers, p.byteOffset r = r.address.toNat * p.width.byteWidth
  /-- and a shift of a 128-bit word loses no bit of them. -/
  byteOffset_eq_shift : ∀ r ∈ registers,
    p.byteOffset r = (BitVec.ofNat 128 r.address.toNat <<< p.width.log2Bytes).toNat
  /-- A byte address selects the slot that is left without its byte offset, -/
  slotOf_eq : ∀ a : BitVec p.busAddressBits, p.slotOf a = a.toNat >>> p.width.log2Bytes
  /-- which is one of the slots. -/
  slotOf_lt : ∀ a : BitVec p.busAddressBits, p.slotOf a < p.slots
  /-- The windows lie among the byte addresses on the bus. -/
  window_subset : ∀ r ∈ registers, p.window r ⊆ Set.Iio (2 ^ p.busAddressBits)
  /-- A byte address lies in the window of a register exactly if it selects its slot. -/
  mem_window : ∀ r ∈ registers, ∀ a : BitVec p.busAddressBits,
    a.toNat ∈ p.window r ↔ p.slotOf a = r.address.toNat
  /-- The windows of different registers are disjoint. -/
  pairwise_disjoint : registers.Pairwise fun r s => p.window r ∩ p.window s = ∅
  /-- No byte address selects two registers. -/
  selects_one : ∀ a : BitVec p.busAddressBits, ∀ r ∈ registers, ∀ s ∈ registers,
    p.slotOf a = r.address.toNat → p.slotOf a = s.address.toNat → r = s

/-- The byte offset of a register is a shift of its address as a 128-bit word. -/
lemma byteOffset_eq_toNat_shiftLeft (r : Register) :
    p.byteOffset r = (BitVec.ofNat 128 r.address.toNat <<< p.width.log2Bytes).toNat := by
  have haddress : r.address.toNat < 2 ^ 128 :=
    r.address.toNat_lt.trans (Nat.pow_lt_pow_right (by decide) (by decide))
  have hoffset : p.byteOffset r < 2 ^ 128 :=
    (p.byteOffset_lt r).trans (Nat.pow_lt_pow_right (by decide) (by decide))
  rw [BitVec.toNat_shiftLeft, BitVec.toNat_ofNat, Nat.mod_eq_of_lt haddress]
  exact (Nat.mod_eq_of_lt hoffset).symm

end Plan

/-- **The address map is a partition.** The registers of a plan lie in disjoint windows of the byte
addresses on the bus, and a byte address selects the register in whose window it lies. -/
theorem mapsAddresses_of_plan {moduleName : String} {registers : List Register} {bits : UInt32}
    {p : Plan} (h : plan moduleName registers bits = .ok p) : p.MapsAddresses registers bits := by
  obtain ⟨-, rfl, hwidth⟩ := plan_eq_ok h
  exact {
    isLeast_slots := p.isLeast_slots
    slots_eq := rfl
    bits_eq := hwidth.symm
    byteWidth_eq := rfl
    slots_mul_byteWidth := p.slots_mul_byteWidth
    byteOffset_eq := fun r _ => p.byteOffset_eq r
    byteOffset_eq_shift := fun r _ => p.byteOffset_eq_toNat_shiftLeft r
    slotOf_eq := p.slotOf_eq_shiftRight
    slotOf_lt := p.slotOf_lt_slots
    window_subset := fun r hr => p.window_subset hr
    mem_window := fun r _ a => by rw [p.mem_window_iff, p.slotOf_eq_shiftRight]
    pairwise_disjoint := p.pairwise_disjoint_window
    selects_one := fun a r hr s hs har has => p.eq_of_address_eq hr hs (har.symm.trans has) }

/-- Two registers of eight bytes each at the ends of sixteen slots map their addresses. -/
theorem mapsAddresses_sparse :
    ∃ p, plan "sparse" [⟨9, "late", ⟨"ctrl"⟩, 0, by decide⟩, ⟨0, "early", ⟨"stat"⟩, 0, by decide⟩]
        64 = .ok p ∧ p.slots = 16 ∧ p.busAddressBits = 7 ∧
      p.MapsAddresses
        [⟨9, "late", ⟨"ctrl"⟩, 0, by decide⟩, ⟨0, "early", ⟨"stat"⟩, 0, by decide⟩] 64 :=
  ⟨_, rfl, by decide, by decide, @mapsAddresses_of_plan "sparse" _ _ _ rfl⟩

end RegisterFile

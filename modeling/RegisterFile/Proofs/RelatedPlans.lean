import Mathlib.Data.List.Forall2
import RegisterFile.Proofs.AddressMap

set_option autoImplicit false

/-!
# Plans of related registers

What planning some registers tells about planning others that come from them.

The order of registers, their modes and the name of the module do not count: two lists that differ
in nothing else are both planned, in the same geometry, or both refused, for violating the same
condition. A register can be left out of a plan and the address space does not grow. Wider registers
keep the slots of a plan and spread their byte addresses, until these no longer fit on the bus.

Every condition of planning is traced from the one list to the other; the outcome of planning then
follows from the conditions.

## Main definitions

* `Rearranged` - the same registers up to their order and their modes.
* `PlanFault.SameKind` - faults that report a violation of the same condition.
* `Plan.SameGeometry`, `Plan.Within`, `Plan.Widens` - how plans of related registers compare.

## Main results

* `plan_rearranged` - the order of registers, their modes and the module's name do not count.
* `plan_fewer_or_wider` - plans of fewer and of wider registers.
-/

namespace RegisterFile

open PlanCondition

/-! ## Comparing the geometry of lists -/

section Comparing

variable {xs ys : List Register}

/-- More bits are needed for a larger number only. -/
lemma bitsRequired_mono {m n : Nat} (h : m ≤ n) : bitsRequired m ≤ bitsRequired n :=
  (bitsRequired_le_iff m _).mpr (h.trans_lt (lt_two_pow_bitsRequired n))

/-- Without further addresses no register has a greater address. -/
lemma greatestAddress_mono (h : xs.map Register.address ⊆ ys.map Register.address) :
    greatestAddress xs ≤ greatestAddress ys := by
  rcases eq_or_ne xs [] with rfl | hne
  · exact Nat.zero_le _
  obtain ⟨r, hr, hmax⟩ := exists_address_eq_greatestAddress hne
  obtain ⟨s, hs, heq⟩ := List.mem_map.mp (h (List.mem_map_of_mem hr))
  rw [← hmax, ← heq]
  exact address_le_greatestAddress hs

/-- Without further addresses no more bits select a register. -/
lemma addressBits_mono (h : xs.map Register.address ⊆ ys.map Register.address) :
    addressBits xs ≤ addressBits ys :=
  bitsRequired_mono (greatestAddress_mono h)

/-- Without further labels no label is longer. -/
lemma longestLabel_mono (h : xs.map Register.label ⊆ ys.map Register.label) :
    longestLabel xs ≤ longestLabel ys := by
  refine longestLabel_le fun r hr => ?_
  obtain ⟨s, hs, heq⟩ := List.mem_map.mp (h (List.mem_map_of_mem hr))
  rw [Register.labelWidth, ← heq]
  exact labelWidth_le_longestLabel hs

end Comparing

/-! ## Plans by conditions -/

/-- Registers that satisfy every condition have a plan, under any name. -/
lemma exists_plan_of_holds {registers : List Register} {bits : UInt32}
    (h : ∀ c : PlanCondition, c.Holds registers bits) (moduleName : String) :
    ∃ p, plan moduleName registers bits = .ok p := by
  cases hplan : plan moduleName registers bits with
  | ok p => exact ⟨p, rfl⟩
  | error fault =>
    obtain ⟨c, hviolated, -⟩ := plan_eq_error hplan
    exact absurd (h c) hviolated.1

/-- Admissible registers have a plan, under any name. -/
lemma exists_plan_of_admissible {width : RegisterWidth} {registers : List Register}
    {bits : UInt32} (hwidth : width.bits = bits.toNat) (h : Admissible width registers)
    (moduleName : String) : ∃ p, plan moduleName registers bits = .ok p :=
  exists_plan_of_holds (holds_of_admissible hwidth h) moduleName

/-! ## Rearranging registers -/

/-- Registers that differ in their modes at most. -/
def Register.SameButMode (r s : Register) : Prop :=
  ∃ mode, s = { r with mode }

/-- The second list has the registers of the first one in some order, each with some mode. -/
def Rearranged (xs ys : List Register) : Prop :=
  ∃ zs, xs.Perm zs ∧ List.Forall₂ Register.SameButMode zs ys

namespace Rearranged

variable {xs ys : List Register} {bits : UInt32}

/-- What does not depend on the mode of a register is found in both lists equally often. -/
lemma perm_map {α : Type} {f : Register → α} (hf : ∀ r mode, f { r with mode } = f r)
    (h : Rearranged xs ys) : (xs.map f).Perm (ys.map f) := by
  obtain ⟨zs, hperm, hmodes⟩ := h
  have heq : zs.map f = ys.map f := by
    clear hperm
    induction hmodes with
    | nil => rfl
    | cons hr _ ih =>
      obtain ⟨mode, rfl⟩ := hr
      rw [List.map_cons, List.map_cons, ih, ← hf _ mode]
  exact heq ▸ hperm.map f

/-- Both lists have the same addresses. -/
lemma addresses (h : Rearranged xs ys) :
    (xs.map Register.address).Perm (ys.map Register.address) :=
  h.perm_map fun _ _ => rfl

/-- Both lists have the same labels. -/
lemma labels (h : Rearranged xs ys) : (xs.map Register.label).Perm (ys.map Register.label) :=
  h.perm_map fun _ _ => rfl

/-- Both lists have the same initial values. -/
lemma initvals (h : Rearranged xs ys) :
    (xs.map Register.initval).Perm (ys.map Register.initval) :=
  h.perm_map fun _ _ => rfl

/-- Rearranging registers leaves their addresses as they are. -/
lemma addressSet_eq (h : Rearranged xs ys) : addressSet xs = addressSet ys := by
  have hperm := h.perm_map (f := fun r => r.address.toNat) fun _ _ => rfl
  ext a
  rw [addressSet, addressSet, Set.mem_ofPred, Set.mem_ofPred, ← List.mem_map, ← List.mem_map]
  exact hperm.mem_iff

/-- Rearranging registers leaves the digits of the largest address as they are. -/
lemma hasIndexDigits_iff (h : Rearranged xs ys) (b : Nat) :
    HasIndexDigits xs b ↔ HasIndexDigits ys b := by
  rw [HasIndexDigits, HasIndexDigits, h.addressSet_eq]

/-- Rearranging registers leaves the bits that select one of them as they are. -/
lemma addressBits_eq (h : Rearranged xs ys) : addressBits xs = addressBits ys :=
  Nat.le_antisymm (addressBits_mono h.addresses.subset) (addressBits_mono h.addresses.symm.subset)

/-- Rearranging registers leaves the length of the longest label as it is. -/
lemma longestLabel_eq (h : Rearranged xs ys) : longestLabel xs = longestLabel ys :=
  Nat.le_antisymm (longestLabel_mono h.labels.subset) (longestLabel_mono h.labels.symm.subset)

/-- **Rearranging registers leaves every condition as it is.** -/
lemma holds_iff (h : Rearranged xs ys) (c : PlanCondition) :
    c.Holds xs bits ↔ c.Holds ys bits := by
  cases c with
  | registers =>
    have hlength := h.addresses.length_eq
    rw [List.length_map, List.length_map] at hlength
    rw [Holds, Holds, ← List.length_pos_iff, ← List.length_pos_iff, hlength]
  | width => exact Iff.rfl
  | addresses =>
    rw [Holds, Holds, ← nodup_map_iff_not_repeats, ← nodup_map_iff_not_repeats,
      h.addresses.nodup_iff]
  | labels =>
    rw [Holds, Holds, ← nodup_map_iff_not_repeats, ← nodup_map_iff_not_repeats,
      h.labels.nodup_iff]
  | values =>
    have hvalues (zs : List Register) : (∀ r ∈ zs, r.initval.toNat < 2 ^ bits.toNat) ↔
        ∀ v ∈ zs.map Register.initval, v.toNat < 2 ^ bits.toNat := by
      rw [List.forall_mem_map]
    rw [Holds, Holds, hvalues, hvalues]
    exact forall_congr' fun v => imp_congr_left h.initvals.mem_iff
  | space => simp only [Holds, h.hasIndexDigits_iff]

/-- Rearranging registers leaves the first violated condition as it is. -/
lemma firstViolated_iff (h : Rearranged xs ys) (c : PlanCondition) :
    c.FirstViolated xs bits ↔ c.FirstViolated ys bits := by
  simp only [FirstViolated, h.holds_iff]

end Rearranged

/-- Faults that report a violation of the same condition. An invalid width and the size of an
address space are reported alike; which registers are named may differ. -/
inductive PlanFault.SameKind : PlanFault → PlanFault → Prop
  | noRegisters : SameKind .noRegisters .noRegisters
  | invalidWidth (bits : UInt32) : SameKind (.invalidWidth bits) (.invalidWidth bits)
  | duplicateAddress (a a' : UInt64) (first second first' second' : String) :
      SameKind (.duplicateAddress a first second) (.duplicateAddress a' first' second')
  | duplicateLabel (label label' : String) (first second first' second' : UInt64) :
      SameKind (.duplicateLabel label first second) (.duplicateLabel label' first' second')
  | valueOutOfRange (a a' : UInt64) (label label' : String) (v v' : UInt64)
      (width width' : RegisterWidth) :
      SameKind (.valueOutOfRange a label v width) (.valueOutOfRange a' label' v' width')
  | addressTooWide (addressBits log2Bytes : Nat) :
      SameKind (.addressTooWide addressBits log2Bytes) (.addressTooWide addressBits log2Bytes)

/-- A violation of the same condition is reported alike when registers are rearranged. -/
lemma Rearranged.sameKind {xs ys : List Register} {bits : UInt32} (h : Rearranged xs ys)
    {c : PlanCondition} {f g : PlanFault} (hf : c.Reports xs bits f) (hg : c.Reports ys bits g) :
    f.SameKind g := by
  cases hf with
  | registers => cases hg; exact .noRegisters
  | width => cases hg; exact .invalidWidth bits
  | addresses first ha hb => cases hg; exact .duplicateAddress ..
  | labels first ha hb => cases hg; exact .duplicateLabel ..
  | values hr misfit first width => cases hg; exact .valueOutOfRange ..
  | space digits =>
    cases hg with
    | space digits' =>
      rw [((h.hasIndexDigits_iff _).mp digits).unique digits']
      exact .addressTooWide ..

/-- Plans that differ in the order of their registers, in modes and in the name only. -/
structure Plan.SameGeometry (p q : Plan) : Prop where
  width_eq : p.width = q.width
  addressBits_eq : p.addressBits = q.addressBits
  busAddressBits_eq : p.busAddressBits = q.busAddressBits
  slots_eq : p.slots = q.slots
  labelColumn_eq : p.labelColumn = q.labelColumn
  /-- The registers have the same addresses, labels and byte offsets. -/
  byteOffsets : (p.registers.map fun r => (r.address, r.label, p.byteOffset r)).Perm
    (q.registers.map fun r => (r.address, r.label, q.byteOffset r))

/-- Plans of rearranged registers of the same width have the same geometry. -/
lemma Rearranged.sameGeometry {p q : Plan} (h : Rearranged p.registers q.registers)
    (hwidth : p.width = q.width) : p.SameGeometry q := by
  have hbits : p.addressBits = q.addressBits := h.addressBits_eq
  exact {
    width_eq := hwidth
    addressBits_eq := hbits
    busAddressBits_eq := by rw [Plan.busAddressBits, Plan.busAddressBits, hbits, hwidth]
    slots_eq := by rw [Plan.slots, Plan.slots, hbits]
    labelColumn_eq := h.longestLabel_eq
    byteOffsets := by
      have hoffset : q.byteOffset = p.byteOffset := by
        funext r
        rw [Plan.byteOffset, Plan.byteOffset, hwidth]
      rw [hoffset]
      exact h.perm_map fun _ _ => rfl }

/-- **The order of registers, their modes and the name of the module do not count.** Rearranged
registers are both planned, each list in its own order and both in the same geometry, or both
refused, for violating the same condition.

**Proof sketch.** Rearranging keeps each condition (`Rearranged.holds_iff`), hence also which one is
violated first. A plan exists where no condition is violated (`exists_plan_of_holds`), and a fault
reports the first one that is, so that the outcomes are of the same kind. -/
theorem plan_rearranged {xs ys : List Register} (h : Rearranged xs ys) (bits : UInt32)
    (moduleName moduleName' : String) :
    (∃ p q, plan moduleName xs bits = .ok p ∧ plan moduleName' ys bits = .ok q ∧
      p.SameGeometry q ∧ p.registers = xs ∧ q.registers = ys) ∨
    ∃ f g, plan moduleName xs bits = .error f ∧ plan moduleName' ys bits = .error g ∧
      f.SameKind g := by
  cases hx : plan moduleName xs bits with
  | ok p =>
    have hholds : ∀ c : PlanCondition, c.Holds ys bits := fun c =>
      (h.holds_iff c).mp (holds_of_plan_eq_ok hx c)
    obtain ⟨q, hq⟩ := exists_plan_of_holds hholds moduleName'
    obtain ⟨-, rfl, hwidth⟩ := plan_eq_ok hx
    obtain ⟨-, rfl, hwidth'⟩ := plan_eq_ok hq
    have hsame := h.sameGeometry (RegisterWidth.bits_injective (hwidth.trans hwidth'.symm))
    exact .inl ⟨p, q, rfl, hq, hsame, rfl, rfl⟩
  | error f =>
    obtain ⟨c, hviolated, hreports⟩ := plan_eq_error hx
    have hviolated' := (h.firstViolated_iff c).mp hviolated
    cases hy : plan moduleName' ys bits with
    | ok q => exact absurd (holds_of_plan_eq_ok hy c) hviolated'.1
    | error g =>
      obtain ⟨d, hd, hreports'⟩ := plan_eq_error hy
      obtain rfl := hviolated'.unique hd
      exact .inr ⟨f, g, rfl, rfl, h.sameKind hreports hreports'⟩

/-- Two registers keep their geometry in another order, with another mode and under another name.
Registers that share an address do not get a plan in any order, but another pair of labels is
named. -/
theorem plan_rearranged_samples :
    let a : Register := ⟨1, "a", ⟨"ctrl"⟩, 0, by decide⟩
    let b : Register := ⟨1, "b", ⟨"stat"⟩, 7, by decide⟩
    let c : Register := ⟨1, "c", ⟨"trig"⟩, 0, by decide⟩
    let d : Register := ⟨5, "status", ⟨"stat"⟩, 9, by decide⟩
    (Rearranged [a, d] [{ d with mode := ⟨"odd"⟩ }, a] ∧
      ∃ p q, plan "m" [a, d] 32 = .ok p ∧ plan "n" [{ d with mode := ⟨"odd"⟩ }, a] 32 = .ok q ∧
        p.SameGeometry q ∧ p.slots = 8 ∧ p.labelColumn = 6 ∧
        p.registers.map p.byteOffset = [4, 20] ∧
        q.registers = [{ d with mode := ⟨"odd"⟩ }, a]) ∧
      Rearranged [a, b, c] [{ c with mode := ⟨"odd"⟩ }, b, a] ∧
      plan "m" [a, b, c] 32 = .error (.duplicateAddress 1 "a" "b") ∧
      ∃ g, plan "n" [{ c with mode := ⟨"odd"⟩ }, b, a] 32 = .error g ∧
        (PlanFault.duplicateAddress 1 "a" "b").SameKind g := by
  intro a b c d
  have hsparse : Rearranged [a, d] [{ d with mode := ⟨"odd"⟩ }, a] :=
    ⟨[d, a], by decide, .cons ⟨_, rfl⟩ (.cons ⟨_, rfl⟩ .nil)⟩
  have hclash : Rearranged [a, b, c] [{ c with mode := ⟨"odd"⟩ }, b, a] :=
    ⟨[c, b, a], by decide, .cons ⟨_, rfl⟩ (.cons ⟨_, rfl⟩ (.cons ⟨_, rfl⟩ .nil))⟩
  have hplan : ∃ p, plan "m" [a, d] 32 = .ok p ∧ p.slots = 8 ∧ p.labelColumn = 6 ∧
      p.registers.map p.byteOffset = [4, 20] := by
    dsimp only [a, d]
    exact ⟨_, rfl, rfl, rfl, rfl⟩
  have hfault : plan "m" [a, b, c] 32 = .error (.duplicateAddress 1 "a" "b") := rfl
  refine ⟨⟨hsparse, ?_⟩, hclash, hfault, ?_⟩
  · obtain ⟨p, hp, hslots, hcolumn, hoffsets⟩ := hplan
    rcases plan_rearranged hsparse 32 "m" "n" with ⟨p', q, hp', hq, hsame, -, hq'⟩ | ⟨f, g, hf, -⟩
    · obtain rfl := Except.ok.inj (hp.symm.trans hp')
      exact ⟨p, q, hp, hq, hsame, hslots, hcolumn, hoffsets, hq'⟩
    · cases hp.symm.trans hf
  · rcases plan_rearranged hclash 32 "m" "n" with ⟨p, q, hp, -⟩ | ⟨f, g, hf, hg, hsame⟩
    · cases hfault.symm.trans hp
    · obtain rfl := Except.error.inj (hfault.symm.trans hf)
      exact ⟨g, hg, hsame⟩

/-! ## Fewer registers -/

/-- Registers stay admissible when some of them are left out. -/
lemma Admissible.of_sublist {width : RegisterWidth} {xs ys : List Register}
    (h : Admissible width ys) (hsub : xs.Sublist ys) (hne : xs ≠ []) : Admissible width xs := by
  have hbits := addressBits_mono (hsub.map Register.address).subset
  have hfits := h.address_fits
  have hslots := h.slots_fit
  exact {
    nonempty := hne
    addresses_nodup := h.addresses_nodup.sublist (hsub.map _)
    labels_nodup := h.labels_nodup.sublist (hsub.map _)
    representable := fun r hr => h.representable r (hsub.subset hr)
    address_fits := by omega
    slots_fit := by omega }

/-- The plan `q` is one of fewer registers than `p`, in an address space that is not larger. -/
structure Plan.Within (q p : Plan) : Prop where
  width_eq : q.width = p.width
  addressBits_le : q.addressBits ≤ p.addressBits
  slots_le : q.slots ≤ p.slots
  busAddressBits_le : q.busAddressBits ≤ p.busAddressBits
  labelColumn_le : q.labelColumn ≤ p.labelColumn
  /-- The remaining registers stay where they are. -/
  byteOffset_eq : ∀ r ∈ q.registers, q.byteOffset r = p.byteOffset r

/-- A plan of some of the registers of another one lies within it. -/
lemma Plan.within_of_sublist {p q : Plan} (h : q.registers.Sublist p.registers)
    (hwidth : q.width = p.width) : q.Within p := by
  have hbits : q.addressBits ≤ p.addressBits := addressBits_mono (h.map Register.address).subset
  exact {
    width_eq := hwidth
    addressBits_le := hbits
    slots_le := Nat.pow_le_pow_right (by decide) hbits
    busAddressBits_le := by
      rw [Plan.busAddressBits, Plan.busAddressBits, hwidth]
      exact Nat.add_le_add_right hbits _
    labelColumn_le := longestLabel_mono (h.map Register.label).subset
    byteOffset_eq := fun r _ => by rw [Plan.byteOffset, Plan.byteOffset, hwidth] }

/-! ## Wider registers -/

/-- The plan `q` has the registers of `p`, each of them wider by a power of two. -/
structure Plan.Widens (q p : Plan) (factor : Nat) : Prop where
  registers_eq : q.registers = p.registers
  addressBits_eq : q.addressBits = p.addressBits
  slots_eq : q.slots = p.slots
  labelColumn_eq : q.labelColumn = p.labelColumn
  busAddressBits_eq : q.busAddressBits = p.busAddressBits + Nat.log 2 factor
  byteOffset_eq : ∀ r ∈ p.registers, q.byteOffset r = p.byteOffset r * factor

namespace RegisterWidth

variable {v w : RegisterWidth}

/-- A power of two that is not below a width is a width, if it fits in 32 bits. -/
lemma exists_bits_eq_of_le (v : RegisterWidth) {bits : UInt32} (hpower : ∃ k, bits.toNat = 2 ^ k)
    (h : v.bits ≤ bits.toNat) : ∃ w : RegisterWidth, w.bits = bits.toNat := by
  obtain ⟨k, hk⟩ := hpower
  rw [hk, bits_eq_two_pow, Nat.pow_le_pow_iff_right (by decide)] at h
  have hlt := log2_lt_of_pow_eq hk.symm
  exact ⟨⟨k - 3, by omega⟩, by rw [hk, bits_eq_two_pow, Nat.sub_add_cancel (by omega)]⟩

/-- Of two widths the one of more bits has more byte offset bits. -/
lemma log2Bytes_le_log2Bytes (h : v.bits ≤ w.bits) : v.log2Bytes ≤ w.log2Bytes := by
  rw [bits_eq_two_pow, bits_eq_two_pow, Nat.pow_le_pow_iff_right (by decide)] at h
  exact Nat.le_of_add_le_add_right h

/-- How many times a width is as wide as another one is a power of two. -/
lemma bits_div_bits (h : v.bits ≤ w.bits) :
    w.bits / v.bits = 2 ^ (w.log2Bytes - v.log2Bytes) := by
  have hlog := log2Bytes_le_log2Bytes h
  rw [bits_eq_two_pow, bits_eq_two_pow, Nat.pow_div (by omega) (by decide)]
  congr 1
  omega

/-- The byte offset bits grow by the logarithm of that. -/
lemma log2Bytes_add_log (h : v.bits ≤ w.bits) :
    v.log2Bytes + Nat.log 2 (w.bits / v.bits) = w.log2Bytes := by
  rw [bits_div_bits h, Nat.log_pow (by decide)]
  exact Nat.add_sub_of_le (log2Bytes_le_log2Bytes h)

end RegisterWidth

/-- A plan of the same registers, each of them wider, widens the plan. -/
lemma Plan.widens_of_bits_le {p q : Plan} (hregisters : q.registers = p.registers)
    (hwidth : p.width.bits ≤ q.width.bits) : q.Widens p (q.width.bits / p.width.bits) := by
  have hbits : q.addressBits = p.addressBits := by
    rw [Plan.addressBits, Plan.addressBits, hregisters]
  have hlog := RegisterWidth.log2Bytes_le_log2Bytes hwidth
  exact {
    registers_eq := hregisters
    addressBits_eq := hbits
    slots_eq := by rw [Plan.slots, Plan.slots, hbits]
    labelColumn_eq := by rw [Plan.labelColumn, Plan.labelColumn, hregisters]
    busAddressBits_eq := by
      rw [Plan.busAddressBits, Plan.busAddressBits, hbits, Nat.add_assoc,
        RegisterWidth.log2Bytes_add_log hwidth]
    byteOffset_eq := fun r _ => by
      rw [Plan.byteOffset_eq, Plan.byteOffset_eq, RegisterWidth.byteWidth_eq_two_pow,
        RegisterWidth.byteWidth_eq_two_pow, RegisterWidth.bits_div_bits hwidth, Nat.mul_assoc,
        ← pow_add, Nat.add_sub_of_le hlog] }

/-- The registers of a plan satisfy every condition on wider registers, that on the address space
apart. -/
lemma Plan.holds_of_wider (p : Plan) {bits : UInt32} {w : RegisterWidth}
    (hw : w.bits = bits.toNat) (hwider : p.width.bits ≤ w.bits) {c : PlanCondition}
    (hc : c ≠ .space) : c.Holds p.registers bits := by
  have hadmissible := p.admissible
  cases c with
  | registers => exact hadmissible.nonempty
  | width => exact holds_width_iff.mpr ⟨w, hw⟩
  | addresses => exact nodup_map_iff_not_repeats.mp hadmissible.addresses_nodup
  | labels => exact nodup_map_iff_not_repeats.mp hadmissible.labels_nodup
  | values =>
    intro r hr
    have hfits := (p.width.canRepresent_iff r.initval).mp (hadmissible.representable r hr)
    rw [← hw]
    exact hfits.trans_le (Nat.pow_le_pow_right (by decide) hwider)
  | space => exact absurd rfl hc

/-- Wider registers have a plan if their byte addresses fit on the bus. -/
lemma Plan.exists_plan_of_wider (p : Plan) {bits : UInt32} {w : RegisterWidth}
    (hw : w.bits = bits.toNat) (hwider : p.width.bits ≤ w.bits)
    (hfits : p.addressBits + w.log2Bytes ≤ 64) (moduleName : String) :
    ∃ q, plan moduleName p.registers bits = .ok q := by
  refine exists_plan_of_holds (fun c => ?_) moduleName
  by_cases hc : c = .space
  · subst hc
    exact (holds_space_iff hw p.admissible.nonempty).mpr ⟨hfits, p.admissible.slots_fit⟩
  · exact p.holds_of_wider hw hwider hc

/-- Wider registers are refused for the size of their address space only, if their byte addresses
do not fit on the bus. -/
lemma Plan.plan_of_wider_eq_error (p : Plan) {bits : UInt32} {w : RegisterWidth}
    (hw : w.bits = bits.toNat) (hwider : p.width.bits ≤ w.bits)
    (hlarge : 64 < p.addressBits + w.log2Bytes) (moduleName : String) :
    plan moduleName p.registers bits = .error (.addressTooWide p.addressBits w.log2Bytes) := by
  have hspace : ¬ Holds p.registers bits .space := by
    rw [holds_space_iff hw p.admissible.nonempty]
    exact fun h => Nat.not_le_of_lt hlarge h.1
  cases hplan : plan moduleName p.registers bits with
  | ok q => exact absurd (holds_of_plan_eq_ok hplan .space) hspace
  | error f =>
    obtain ⟨c, hviolated, hreports⟩ := plan_eq_error hplan
    obtain rfl : c = .space :=
      Decidable.byContradiction fun hc => hviolated.1 (p.holds_of_wider hw hwider hc)
    cases hreports with
    | space digits =>
      rw [digits.unique (hasIndexDigits_addressBits p.admissible.nonempty),
        offsetBits_eq_log2Bytes hw]
      rfl

/-- **Plans of fewer and of wider registers.** Some of the registers of a plan have a plan of their
own, which lies within it. Registers that are wider by a power of two have a plan that widens it if
their byte addresses fit on the bus, and are refused for the size of their address space if not. -/
theorem plan_fewer_or_wider {moduleName : String} {registers : List Register} {bits : UInt32}
    {p : Plan} (h : plan moduleName registers bits = .ok p) (moduleName' : String) :
    (∀ fewer : List Register, fewer.Sublist registers → fewer ≠ [] →
      ∃ q, plan moduleName' fewer bits = .ok q ∧ q.registers = fewer ∧ q.Within p) ∧
    ∀ wider : UInt32, (∃ k, wider.toNat = 2 ^ k) → bits ≤ wider →
      let factor := wider.toNat / bits.toNat
      (p.busAddressBits + Nat.log 2 factor ≤ 64 →
        ∃ q, plan moduleName' registers wider = .ok q ∧ q.width.bits = wider.toNat ∧
          q.Widens p factor) ∧
      (64 < p.busAddressBits + Nat.log 2 factor →
        plan moduleName' registers wider =
          .error (.addressTooWide p.addressBits (p.width.log2Bytes + Nat.log 2 factor))) := by
  obtain ⟨-, rfl, hwidth⟩ := plan_eq_ok h
  refine ⟨fun fewer hsub hne => ?_, fun wider hpower hle => ?_⟩
  · obtain ⟨q, hq⟩ :=
      exists_plan_of_admissible hwidth (p.admissible.of_sublist hsub hne) moduleName'
    obtain ⟨-, rfl, hwidth'⟩ := plan_eq_ok hq
    exact ⟨q, hq, rfl, Plan.within_of_sublist hsub
      (RegisterWidth.bits_injective (hwidth'.trans hwidth.symm))⟩
  · have hle : p.width.bits ≤ wider.toNat := hwidth ▸ UInt32.le_iff_toNat_le.mp hle
    obtain ⟨w, hw⟩ := p.width.exists_bits_eq_of_le hpower hle
    have hwider : p.width.bits ≤ w.bits := hw ▸ hle
    intro factor
    have hfactor : factor = w.bits / p.width.bits := by rw [hw, hwidth]
    have hbus : p.busAddressBits + Nat.log 2 factor = p.addressBits + w.log2Bytes := by
      rw [hfactor, Plan.busAddressBits, Nat.add_assoc, RegisterWidth.log2Bytes_add_log hwider]
    rw [hbus]
    refine ⟨fun hfits => ?_, fun hlarge => ?_⟩
    · obtain ⟨q, hq⟩ := p.exists_plan_of_wider hw hwider hfits moduleName'
      obtain ⟨-, hregisters, hwidth'⟩ := plan_eq_ok hq
      refine ⟨q, hq, hwidth', ?_⟩
      rw [hfactor, hw, ← hwidth']
      exact Plan.widens_of_bits_le hregisters (by rw [hwidth', ← hw]; exact hwider)
    · rw [hfactor, RegisterWidth.log2Bytes_add_log hwider]
      exact p.plan_of_wider_eq_error hw hwider hlarge moduleName'

/-- Registers of one byte that leave three bits of the bus free: they can be eight times as wide,
but not sixteen times. -/
theorem plan_fewer_or_wider_boundary :
    ∃ p, plan "m" [⟨0x1000000000000000, "top", ⟨"ctrl"⟩, 0, by decide⟩,
        ⟨3, "low", ⟨"stat"⟩, 255, by decide⟩] 8 = .ok p ∧ p.busAddressBits = 61 ∧
      (∃ q, plan "n" [⟨3, "low", ⟨"stat"⟩, 255, by decide⟩] 8 = .ok q ∧ q.Within p) ∧
      (∃ q, plan "n" p.registers 64 = .ok q ∧ q.Widens p 8) ∧
      plan "n" p.registers 128 = .error (.addressTooWide 61 4) := by
  obtain ⟨p, hp, hbits, hbytes⟩ : ∃ p, plan "m"
      [⟨0x1000000000000000, "top", ⟨"ctrl"⟩, 0, by decide⟩, ⟨3, "low", ⟨"stat"⟩, 255, by decide⟩]
        8 = .ok p ∧ p.addressBits = 61 ∧ p.width.log2Bytes = 0 := ⟨_, rfl, by decide, by decide⟩
  obtain ⟨hfewer, hwider⟩ := plan_fewer_or_wider hp "n"
  obtain ⟨q, hq, -, hwithin⟩ :=
    hfewer [⟨3, "low", ⟨"stat"⟩, 255, by decide⟩] (by decide) (by decide)
  obtain ⟨hwide, -⟩ := hwider 64 ⟨6, by decide⟩ (by decide)
  obtain ⟨-, htooWide⟩ := hwider 128 ⟨7, by decide⟩ (by decide)
  have hbus : p.busAddressBits = 61 := by rw [Plan.busAddressBits, hbits, hbytes]
  rw [hbus] at hwide htooWide
  rw [hbits, hbytes] at htooWide
  obtain ⟨q', hq', -, hwidens⟩ := hwide (by decide)
  obtain ⟨-, hregisters, -⟩ := plan_eq_ok hp
  rw [← hregisters] at hq' htooWide
  exact ⟨p, hp, hbus, ⟨q, hq, hwithin⟩, ⟨q', hq', hwidens⟩, htooWide (by decide)⟩

end RegisterFile

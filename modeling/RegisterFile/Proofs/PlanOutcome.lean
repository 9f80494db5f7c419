import Mathlib.Data.List.MinMax
import Mathlib.Order.Bounds.Basic
import RegisterFile.Proofs.Repeats
import RegisterFile.Proofs.Width

set_option autoImplicit false

/-!
# Outcomes of planning

Planning told by conditions on positions and unbounded integers, without a run of the planner: six
conditions in a fixed order, and for each of them the fault that reports its violation. A list of
registers has a plan exactly if all conditions hold, and otherwise the first one that does not is
reported, whatever is violated behind it.

## Main definitions

* `PlanCondition` - the conditions, in their order.
* `PlanCondition.Holds`, `PlanCondition.FirstViolated` - when a condition holds, and when it is the
  first one that does not.
* `PlanCondition.Reports` - the fault that reports a violation.

## Main results

* `plan_outcome` - planning succeeds where all conditions hold, and otherwise reports the first
  violated one.
-/

namespace RegisterFile

/-! ## Greatest values -/

section Greatest

variable {α : Type} (f : α → Nat) {xs : List α}

/-- Each value is at most the greatest one. -/
lemma le_foldr_max {x : α} (hx : x ∈ xs) : f x ≤ xs.foldr (fun y n => max (f y) n) 0 := by
  rw [← List.foldr_map (f := f) (g := max)]
  exact List.le_max_of_le (List.mem_map_of_mem hx) le_rfl

/-- The greatest value is as small as all values are. -/
lemma foldr_max_le {n : Nat} (h : ∀ x ∈ xs, f x ≤ n) :
    xs.foldr (fun y n => max (f y) n) 0 ≤ n := by
  rw [← List.foldr_map (f := f) (g := max)]
  exact List.max_le_of_forall_le _ _ (List.forall_mem_map.mpr h)

/-- The greatest value is taken somewhere, if there is any value. -/
lemma exists_eq_foldr_max (h : xs ≠ []) :
    ∃ x ∈ xs, f x = xs.foldr (fun y n => max (f y) n) 0 := by
  have hvalues : xs.map f ≠ [] := fun hnil => h (List.map_eq_nil_iff.mp hnil)
  rw [← List.foldr_map (f := f) (g := max), ← List.mem_map]
  exact List.maximum_mem (List.foldr_max_of_ne_nil hvalues).symm

end Greatest

/-! ## The size of an address space -/

/-- The address of each register is at most the greatest address. -/
lemma address_le_greatestAddress {registers : List Register} {r : Register}
    (h : r ∈ registers) : r.address.toNat ≤ greatestAddress registers :=
  le_foldr_max (fun r => r.address.toNat) h

/-- The greatest address is that of a register, if there is one. -/
lemma exists_address_eq_greatestAddress {registers : List Register} (h : registers ≠ []) :
    ∃ r ∈ registers, r.address.toNat = greatestAddress registers :=
  exists_eq_foldr_max (fun r => r.address.toNat) h

/-- The addresses of some registers as numbers. -/
def addressSet (registers : List Register) : Set Nat :=
  {a | ∃ r ∈ registers, r.address.toNat = a}

/-- The largest address of some registers has `b` binary digits; the number zero has none. -/
def HasIndexDigits (registers : List Register) (b : Nat) : Prop :=
  ∃ m, IsGreatest (addressSet registers) m ∧ (Nat.digits 2 m).length = b

/-- The largest address of some registers has at most one number of digits. -/
lemma HasIndexDigits.unique {registers : List Register} {b b' : Nat}
    (h : HasIndexDigits registers b) (h' : HasIndexDigits registers b') : b = b' := by
  obtain ⟨m, hm, rfl⟩ := h
  obtain ⟨m', hm', rfl⟩ := h'
  rw [hm.unique hm']

/-- The digits of the largest address are the bits that select a register. -/
lemma hasIndexDigits_addressBits {registers : List Register} (h : registers ≠ []) :
    HasIndexDigits registers (addressBits registers) := by
  obtain ⟨r, hr, hmax⟩ := exists_address_eq_greatestAddress h
  refine ⟨greatestAddress registers, ⟨⟨r, hr, hmax⟩, ?_⟩, ?_⟩
  · rintro a ⟨s, hs, rfl⟩
    exact address_le_greatestAddress hs
  · rw [addressBits, bitsRequired_eq_length_digits]

/-! ## The longest label -/

/-- A label is at most as long as the longest one. -/
lemma labelWidth_le_longestLabel {registers : List Register} {r : Register}
    (h : r ∈ registers) : r.labelWidth ≤ longestLabel registers :=
  le_foldr_max Register.labelWidth h

/-- The longest label is as short as all labels are. -/
lemma longestLabel_le {registers : List Register} {n : Nat}
    (h : ∀ r ∈ registers, r.labelWidth ≤ n) : longestLabel registers ≤ n :=
  foldr_max_le Register.labelWidth h

/-- The longest label is that of a register, if there is one. -/
lemma exists_labelWidth_eq_longestLabel {registers : List Register} (h : registers ≠ []) :
    ∃ r ∈ registers, r.labelWidth = longestLabel registers :=
  exists_eq_foldr_max Register.labelWidth h

/-! ## Conditions -/

/-- The conditions that planning checks, in the order of the checks. -/
inductive PlanCondition where
  /-- There is a register. -/
  | registers
  /-- The width is a power of two of at least one byte. -/
  | width
  /-- No two positions share an address. -/
  | addresses
  /-- No two positions share a label. -/
  | labels
  /-- Every value on reset fits in the width. -/
  | values
  /-- The address space fits on the bus. -/
  | space
  deriving DecidableEq, Repr

namespace PlanCondition

variable (registers : List Register) (bits : UInt32)

/-- The place of a condition in the order of the checks. -/
def rank : PlanCondition → Nat
  | .registers => 0
  | .width => 1
  | .addresses => 2
  | .labels => 3
  | .values => 4
  | .space => 5

/-- The base-two logarithm of the bytes of a width, which are an eighth of its bits. -/
def offsetBits : Nat := Nat.log 2 (bits.toNat / 8)

/-- When a condition holds for some registers of `bits` bits each. -/
def Holds : PlanCondition → Prop
  | .registers => registers ≠ []
  | .width => ∃ k, 3 ≤ k ∧ bits.toNat = 2 ^ k
  | .addresses => ∀ i j, ¬ Repeats Register.address registers i j
  | .labels => ∀ i j, ¬ Repeats Register.label registers i j
  | .values => ∀ r ∈ registers, r.initval.toNat < 2 ^ bits.toNat
  | .space => ∃ b, HasIndexDigits registers b ∧ b + offsetBits bits ≤ 64 ∧ b ≤ 63

/-- A condition is violated and all conditions before it hold. -/
def FirstViolated (c : PlanCondition) : Prop :=
  ¬ c.Holds registers bits ∧ ∀ d : PlanCondition, d.rank < c.rank → d.Holds registers bits

/-- The fault that reports the violation of a condition. Of two registers that share a key the one
declared earlier comes first; of the values that do not fit the first one is named. -/
inductive Reports : PlanCondition → PlanFault → Prop
  | registers : Reports .registers .noRegisters
  | width : Reports .width (.invalidWidth bits)
  | addresses {i j : Nat} {a b : Register}
      (first : FirstRepeat Register.address registers i j)
      (ha : registers[i]? = some a) (hb : registers[j]? = some b) :
      Reports .addresses (.duplicateAddress b.address a.label b.label)
  | labels {i j : Nat} {a b : Register}
      (first : FirstRepeat Register.label registers i j)
      (ha : registers[i]? = some a) (hb : registers[j]? = some b) :
      Reports .labels (.duplicateLabel b.label a.address b.address)
  | values {i : Nat} {r : Register} {w : RegisterWidth} (hr : registers[i]? = some r)
      (misfit : ¬ r.initval.toNat < 2 ^ bits.toNat)
      (first : ∀ j < i, ∀ s, registers[j]? = some s → s.initval.toNat < 2 ^ bits.toNat)
      (width : w.bits = bits.toNat) :
      Reports .values (.valueOutOfRange r.address r.label r.initval w)
  | space {b : Nat} (digits : HasIndexDigits registers b) :
      Reports .space (.addressTooWide b (offsetBits bits))

variable {registers bits}

/-- Conditions at the same place are the same. -/
lemma rank_injective : Function.Injective rank := by
  intro c d h
  cases c <;> cases d <;> simp_all [rank]

/-- The conditions that hold up to a place still do with the one at that place. -/
lemma holds_upTo {c : PlanCondition}
    (below : ∀ d : PlanCondition, d.rank < c.rank → d.Holds registers bits)
    (hc : c.Holds registers bits) (d : PlanCondition) (hd : d.rank < c.rank + 1) :
    d.Holds registers bits := by
  rcases Nat.lt_succ_iff_lt_or_eq.mp hd with hlt | heq
  · exact below d hlt
  · rw [rank_injective heq]
    exact hc

/-- Only one condition is the first one violated. -/
lemma FirstViolated.unique {c d : PlanCondition} (hc : c.FirstViolated registers bits)
    (hd : d.FirstViolated registers bits) : c = d := by
  rcases Nat.lt_trichotomy c.rank d.rank with hlt | heq | hlt
  · exact absurd (hd.2 c hlt) hc.1
  · exact rank_injective heq
  · exact absurd (hc.2 d hlt) hd.1

/-! ## What the checks decide -/

/-- The search for an address or a label that repeats decides whether one does. -/
lemma firstRepeat?_eq_none_iff_not_repeats {κ : Type} [DecidableEq κ] (key : Register → κ) :
    firstRepeat? key registers = none ↔ ∀ i j, ¬ Repeats key registers i j := by
  rw [firstRepeat?_eq_none_iff, nodup_map_iff_not_repeats]

/-- Some bits are a width exactly if there is a register width of so many. -/
lemma holds_width_iff :
    Holds registers bits .width ↔ ∃ w : RegisterWidth, w.bits = bits.toNat := by
  have hnone := RegisterWidth.ofBits?_eq_none_iff bits
  rw [← not_iff_not, Holds, ← hnone, Option.eq_none_iff_forall_ne_some, not_exists]
  simp only [ne_eq, RegisterWidth.ofBits?_eq_some_iff]

/-- The values on reset fit exactly if each can be stored. -/
lemma holds_values_iff {w : RegisterWidth} (hw : w.bits = bits.toNat) :
    Holds registers bits .values ↔ ∀ r ∈ registers, w.canRepresent r.initval = true := by
  simp only [Holds, RegisterWidth.canRepresent_iff, hw]

/-- The value that the search for one that does not fit finds is the first such one. -/
lemma exists_misfit_of_find? {w : RegisterWidth} (hw : w.bits = bits.toNat) {r : Register}
    (h : (registers.find? fun r => !w.canRepresent r.initval) = some r) :
    ∃ i : Nat, registers[i]? = some r ∧ ¬ r.initval.toNat < 2 ^ bits.toNat ∧
      ∀ j < i, ∀ s, registers[j]? = some s → s.initval.toNat < 2 ^ bits.toNat := by
  obtain ⟨hmisfit, i, hi, rfl, hfirst⟩ := List.find?_eq_some_iff_getElem.mp h
  refine ⟨i, List.getElem?_eq_getElem hi, ?_, fun j hj s hs => ?_⟩
  · rw [← hw, ← RegisterWidth.canRepresent_iff]
    simpa using hmisfit
  · obtain ⟨hjl, rfl⟩ := List.getElem?_eq_some_iff.mp hs
    rw [← hw, ← RegisterWidth.canRepresent_iff]
    simpa using hfirst j hj

/-- The bits of the byte offset are those of the width. -/
lemma offsetBits_eq_log2Bytes {w : RegisterWidth} (hw : w.bits = bits.toNat) :
    offsetBits bits = w.log2Bytes := by
  rw [w.log2Bytes_eq_log, hw, offsetBits]

/-- The address space fits exactly if both bounds of a plan are kept. -/
lemma holds_space_iff {w : RegisterWidth} (hw : w.bits = bits.toNat)
    (hne : registers ≠ []) :
    Holds registers bits .space ↔
      addressBits registers + w.log2Bytes ≤ widestAddress ∧ addressBits registers < 64 := by
  have hdigits := hasIndexDigits_addressBits hne
  simp only [Holds, offsetBits_eq_log2Bytes hw, widestAddress]
  constructor
  · rintro ⟨b, hb, hbus, hslots⟩
    obtain rfl := hb.unique hdigits
    omega
  · rintro ⟨hbus, hslots⟩
    exact ⟨_, hdigits, hbus, by omega⟩

/-- The registers of a plan of so many bits satisfy every condition. -/
lemma holds_of_admissible {w : RegisterWidth} (hw : w.bits = bits.toNat)
    (h : Admissible w registers) (c : PlanCondition) : c.Holds registers bits := by
  cases c with
  | registers => exact h.nonempty
  | width => exact holds_width_iff.mpr ⟨w, hw⟩
  | addresses => exact nodup_map_iff_not_repeats.mp h.addresses_nodup
  | labels => exact nodup_map_iff_not_repeats.mp h.labels_nodup
  | values => exact (holds_values_iff hw).mpr h.representable
  | space => exact (holds_space_iff hw h.nonempty).mpr ⟨h.address_fits, h.slots_fit⟩

/-- A violation has only one report. -/
lemma Reports.unique {c : PlanCondition} {f g : PlanFault} (hf : c.Reports registers bits f)
    (hg : c.Reports registers bits g) : f = g := by
  cases hf with
  | registers => cases hg; rfl
  | width => cases hg; rfl
  | addresses first ha hb =>
    cases hg with
    | addresses first' ha' hb' =>
      obtain ⟨rfl, rfl⟩ := first.unique first'
      rw [Option.some.inj (ha.symm.trans ha'), Option.some.inj (hb.symm.trans hb')]
  | labels first ha hb =>
    cases hg with
    | labels first' ha' hb' =>
      obtain ⟨rfl, rfl⟩ := first.unique first'
      rw [Option.some.inj (ha.symm.trans ha'), Option.some.inj (hb.symm.trans hb')]
  | @values i r w hr misfit first width =>
    cases hg with
    | @values i' r' w' hr' misfit' first' width' =>
      obtain rfl : w = w' := RegisterWidth.bits_injective (width.trans width'.symm)
      rcases Nat.lt_trichotomy i i' with hlt | rfl | hlt
      · exact absurd (first' i hlt r hr) misfit
      · rw [Option.some.inj (hr.symm.trans hr')]
      · exact absurd (first i' hlt r' hr') misfit'
  | space digits =>
    cases hg with
    | space digits' => rw [digits.unique digits']

end PlanCondition

/-! ## The planner -/

open PlanCondition

/-- A plan keeps the name and the registers it is made for, and its width has the bits asked for. -/
lemma plan_eq_ok {moduleName : String} {registers : List Register} {bits : UInt32} {p : Plan}
    (h : plan moduleName registers bits = .ok p) :
    p.moduleName = moduleName ∧ p.registers = registers ∧ p.width.bits = bits.toNat := by
  unfold plan at h
  split at h
  · cases h
  split at h
  · cases h
  rename_i w hw
  split at h
  · cases h
  split at h
  · cases h
  split at h
  · cases h
  split at h
  · cases h
    exact ⟨rfl, rfl, (RegisterWidth.ofBits?_eq_some_iff _ _).mp hw⟩
  · cases h

/-- The column of labels of a plan is as wide as the longest label of the registers that it is made
for. -/
lemma labelColumn_of_plan {moduleName : String} {registers : List Register} {bits : UInt32}
    {p : Plan} (h : plan moduleName registers bits = .ok p) :
    p.labelColumn = longestLabel registers := by
  rw [Plan.labelColumn, (plan_eq_ok h).2.1]

/-- A fault of planning reports the first condition that is violated.

**Proof sketch.** Each check of the planner decides one condition, so that a check is reached only
where all conditions before it hold, and its fault is the report of its own. -/
lemma plan_eq_error {moduleName : String} {registers : List Register} {bits : UInt32}
    {fault : PlanFault} (h : plan moduleName registers bits = .error fault) :
    ∃ c : PlanCondition, c.FirstViolated registers bits ∧ c.Reports registers bits fault := by
  unfold plan at h
  split at h
  · rename_i hempty
    cases h
    exact ⟨.registers, ⟨fun hne => hne hempty, nofun⟩, .registers⟩
  rename_i hne
  have below : ∀ d : PlanCondition, d.rank < 1 → d.Holds registers bits :=
    holds_upTo (c := .registers) nofun hne
  split at h
  · rename_i hnone
    cases h
    exact ⟨.width, ⟨(RegisterWidth.ofBits?_eq_none_iff bits).mp hnone, below⟩, .width⟩
  rename_i w hw
  rw [RegisterWidth.ofBits?_eq_some_iff] at hw
  replace below := holds_upTo (c := .width) below (holds_width_iff.mpr ⟨w, hw⟩)
  split at h
  · rename_i hsome
    cases h
    obtain ⟨i, j, hfirst, ha, hb⟩ := exists_firstRepeat_of_firstRepeat? hsome
    exact ⟨.addresses, ⟨fun hold => hold i j hfirst.1, below⟩, .addresses hfirst ha hb⟩
  rename_i haddresses
  replace below := holds_upTo (c := .addresses) below
    ((firstRepeat?_eq_none_iff_not_repeats _).mp haddresses)
  split at h
  · rename_i hsome
    cases h
    obtain ⟨i, j, hfirst, ha, hb⟩ := exists_firstRepeat_of_firstRepeat? hsome
    exact ⟨.labels, ⟨fun hold => hold i j hfirst.1, below⟩, .labels hfirst ha hb⟩
  rename_i hlabels
  replace below := holds_upTo (c := .labels) below
    ((firstRepeat?_eq_none_iff_not_repeats _).mp hlabels)
  split at h
  · rename_i r hr
    cases h
    obtain ⟨i, hi, misfit, first⟩ := exists_misfit_of_find? hw hr
    refine ⟨.values, ⟨fun hold => misfit (hold r (List.mem_of_getElem? hi)), below⟩, ?_⟩
    exact .values hi misfit first hw
  rename_i hvalues
  replace below := holds_upTo (c := .values) below
    ((holds_values_iff hw).mpr (by simpa using hvalues))
  split at h
  · cases h
  · rename_i hspace
    cases h
    refine ⟨.space, ⟨fun hold => hspace ((holds_space_iff hw hne).mp hold), below⟩, ?_⟩
    rw [← offsetBits_eq_log2Bytes hw]
    exact .space (hasIndexDigits_addressBits hne)

/-- The conditions that planning checks hold for the registers of a plan. -/
lemma holds_of_plan_eq_ok {moduleName : String} {registers : List Register} {bits : UInt32}
    {p : Plan} (h : plan moduleName registers bits = .ok p) (c : PlanCondition) :
    c.Holds registers bits := by
  obtain ⟨-, rfl, hwidth⟩ := plan_eq_ok h
  exact holds_of_admissible hwidth p.admissible c

/-- **Planning agrees with its conditions.** There is a plan exactly if all conditions hold, and it
is one of the given registers, name and width, whose address space has as many bits as the
conditions count. Otherwise the first condition that is violated is reported.

**Proof sketch.** The registers of a plan are admissible, so that all conditions hold
(`holds_of_admissible`), and a fault reports the first violated one (`plan_eq_error`). There is only
one such condition and only one report of it, so that no other fault can arise. -/
theorem plan_outcome (moduleName : String) (registers : List Register) (bits : UInt32) :
    ((∃ p, plan moduleName registers bits = .ok p) ↔
      ∀ c : PlanCondition, c.Holds registers bits) ∧
    (∀ p, plan moduleName registers bits = .ok p →
      p.moduleName = moduleName ∧ p.registers = registers ∧ p.width.bits = bits.toNat ∧
        HasIndexDigits registers p.addressBits ∧ p.width.log2Bytes = offsetBits bits) ∧
    ∀ fault, plan moduleName registers bits = .error fault ↔
      ∃ c : PlanCondition, c.FirstViolated registers bits ∧ c.Reports registers bits fault := by
  refine ⟨⟨fun ⟨p, hp⟩ => holds_of_plan_eq_ok hp, fun hall => ?_⟩, fun p hp => ?_,
    fun fault => ⟨plan_eq_error, fun ⟨c, hviolated, hreports⟩ => ?_⟩⟩
  · cases hplan : plan moduleName registers bits with
    | ok p => exact ⟨p, rfl⟩
    | error fault =>
      obtain ⟨c, hviolated, -⟩ := plan_eq_error hplan
      exact absurd (hall c) hviolated.1
  · obtain ⟨hname, hregisters, hwidth⟩ := plan_eq_ok hp
    refine ⟨hname, hregisters, hwidth, ?_, (offsetBits_eq_log2Bytes hwidth).symm⟩
    rw [← hregisters]
    exact hasIndexDigits_addressBits p.admissible.nonempty
  · cases hplan : plan moduleName registers bits with
    | ok p => exact absurd (holds_of_plan_eq_ok hplan c) hviolated.1
    | error other =>
      obtain ⟨d, hviolated', hreports'⟩ := plan_eq_error hplan
      obtain rfl := hviolated.unique hviolated'
      rw [hreports.unique hreports']

end RegisterFile

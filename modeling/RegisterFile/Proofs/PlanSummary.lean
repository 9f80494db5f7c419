import RegisterFile.Proofs.AddressMap
import RegisterFile.Proofs.DeclarationConditions
import RegisterFile.Proofs.DeclarationText

set_option autoImplicit false

/-!
# What the summary of a plan tells

A plan is summarized as a JSON value that holds its geometry and its registers. Addresses and the
quantities of the address space are written as numbers, byte offsets and values on reset as
hexadecimal literals. All of them are exact, so that a plan can be told from its summary.

## Main definitions

* `BindsNumber`, `BindsLiteral` - a key stands for a natural number, written as such or as a
  literal.
* `Plan.SummarizedBy` - a JSON value says everything about a plan.

## Main results

* `Plan.faithful_toJson` - the summary survives its text.
* `Plan.SummarizedBy.unique` - a value says everything about one plan only.
* `Plan.parse_summary` - what is read from the text of a summary says everything about the plan.
-/

namespace RegisterFile

open Json (Faithful)

/-! ## Natural numbers -/

section Members

variable (v : Json.Value) (key : String)

/-- The last value that a key is bound to is a number. -/
def BindsNumber (n : Nat) : Prop :=
  v.last? key = some (.ofNat n)

/-- The last value that a key is bound to is a text that denotes a number. -/
def BindsLiteral (n : Nat) : Prop :=
  ∃ s, BindsText v key s ∧ IntegerLiteral.parse? s = some (n : Int)

variable {v key}

/-- A key is bound to one number at most. -/
theorem BindsNumber.unique {n n' : Nat} (h : BindsNumber v key n) (h' : BindsNumber v key n') :
    n = n' := by
  have hvalue : Json.Value.ofNat n = .ofNat n' := Option.some.inj (h.symm.trans h')
  exact congrArg Json.Number.mantissa (Json.Value.number.inj hvalue)

/-- A key is bound to a text for one number at most. -/
theorem BindsLiteral.unique {n n' : Nat} (h : BindsLiteral v key n) (h' : BindsLiteral v key n') :
    n = n' := by
  obtain ⟨s, hs, hn⟩ := h
  obtain ⟨s', hs', hn'⟩ := h'
  obtain rfl := hs.unique hs'
  exact Int.ofNat.inj (Option.some.inj (hn.symm.trans hn'))

/-- A key that is bound to the hexadecimal spelling of a number stands for it. -/
lemma BindsLiteral.of_hex {n : Nat} (h : BindsText v key (Numeral.hex n))
    (hn : n < IntegerLiteral.magnitudeBound) : BindsLiteral v key n :=
  ⟨_, h, IntegerLiteral.parse?_hex hn⟩

end Members

/-! ## Registers -/

/-- An object says everything about a register of so many bytes. -/
structure Register.SummarizedBy (byteWidth : Nat) (v : Json.Value) (r : Register) : Prop where
  address : BindsNumber v "address" r.address.toNat
  byteOffset : BindsLiteral v "byte_offset" (r.address.toNat * byteWidth)
  label : BindsText v "label" r.label
  mode : BindsText v "mode" r.mode.tag
  initval : BindsLiteral v "initval" r.initval.toNat

namespace Register

/-- An object says everything about one register only. -/
lemma rightUnique_summarizedBy (byteWidth : Nat) :
    Relator.RightUnique (SummarizedBy byteWidth) := by
  rintro v ⟨address, label, ⟨tag⟩, initval, hlabel⟩ ⟨address', label', ⟨tag'⟩, initval', hlabel'⟩
    h h'
  obtain rfl := UInt64.toNat_inj.mp (h.address.unique h'.address)
  obtain rfl := h.label.unique h'.label
  obtain rfl := h.mode.unique h'.mode
  obtain rfl := UInt64.toNat_inj.mp (h.initval.unique h'.initval)
  rfl

end Register

namespace Plan

/-- The object of a register nests one level deep. -/
lemma faithful_registerToJson (p : Plan) (room : Nat) (r : Register) :
    Faithful (room + 1) (p.registerToJson r) := by
  refine .object (by simp) fun m hm => ?_
  simp only [List.mem_cons, List.not_mem_nil, or_false] at hm
  rcases hm with rfl | rfl | rfl | rfl | rfl
  · exact .number r.address.toNat_lt
  all_goals exact .text _

/-- The object of a register says everything about it. -/
lemma summarizedBy_registerToJson (p : Plan) (r : Register) :
    r.SummarizedBy p.width.byteWidth (p.registerToJson r) where
  address := rfl
  byteOffset := by
    rw [← byteOffset_eq]
    exact .of_hex rfl ((p.byteOffset_lt r).trans (by decide))
  label := rfl
  mode := rfl
  initval := .of_hex rfl (r.initval.toNat_lt.trans (by decide))

/-! ## Plans -/

/-- A JSON value says everything about a plan. -/
structure SummarizedBy (p : Plan) (v : Json.Value) : Prop where
  moduleName : BindsText v "module_name" p.moduleName
  width : BindsNumber v "register_width" p.width.bits
  byteWidth : BindsNumber v "register_byte_width" p.width.byteWidth
  log2Bytes : BindsNumber v "log2_register_byte_width" p.width.log2Bytes
  addressBits : BindsNumber v "addr_bits" p.addressBits
  busAddressBits : BindsNumber v "axi_addr_width" p.busAddressBits
  slots : BindsNumber v "num_registers" p.slots
  labelColumn : BindsNumber v "label_column_width" p.labelColumn
  /-- The registers are listed in the order of their declaration. -/
  registers : ∃ items, v.last? "registers" = some (.array items) ∧
    List.Forall₂ (Register.SummarizedBy p.width.byteWidth) items p.registers

/-- The summary of a plan says everything about it. -/
lemma summarizedBy_toJson (p : Plan) : p.SummarizedBy p.toJson where
  moduleName := rfl
  width := rfl
  byteWidth := rfl
  log2Bytes := rfl
  addressBits := rfl
  busAddressBits := rfl
  slots := rfl
  labelColumn := rfl
  registers := ⟨_, rfl, List.forall₂_map_left_iff.mpr <|
    List.forall₂_same.mpr fun r _ => p.summarizedBy_registerToJson r⟩

/-- **A value says everything about one plan only.** -/
theorem SummarizedBy.unique {v : Json.Value} {p q : Plan} (hp : p.SummarizedBy v)
    (hq : q.SummarizedBy v) : p = q := by
  obtain ⟨moduleName, width, registers, admissible⟩ := p
  obtain ⟨moduleName', width', registers', admissible'⟩ := q
  obtain rfl := hp.moduleName.unique hq.moduleName
  obtain rfl := RegisterWidth.bits_injective (hp.width.unique hq.width)
  obtain ⟨items, hitems, hregisters⟩ := hp.registers
  obtain ⟨items', hitems', hregisters'⟩ := hq.registers
  obtain rfl := Json.Value.array.inj (Option.some.inj (hitems.symm.trans hitems'))
  obtain rfl := (Register.rightUnique_summarizedBy _).forall₂ hregisters hregisters'
  rfl

/-- The summary of a plan is read back from its text if the widest label is counted by a 64-bit
word: all other numbers have 64 bits, and the registers nest three deep. -/
theorem faithful_toJson {p : Plan} (hcolumn : p.labelColumn < 2 ^ 64) :
    Faithful Json.deepest p.toJson := by
  have hlog2 : p.width.log2Bytes ≤ 28 := p.width.log2Bytes_le
  have hindex : p.addressBits < 64 := p.admissible.slots_fit
  have hbus : p.busAddressBits ≤ 64 := p.admissible.address_fits
  have hbytes : p.width.byteWidth ≤ 2 ^ 28 := Nat.pow_le_pow_right (by decide) hlog2
  have hslots : p.slots ≤ 2 ^ 63 := Nat.pow_le_pow_right (by decide) (by omega)
  have hbits : p.width.bits ≤ 8 * 2 ^ 28 := Nat.mul_le_mul_left 8 hbytes
  have hbound : Json.mantissaBound = 2 ^ 64 := rfl
  refine .object (by simp) fun m hm => ?_
  simp only [List.mem_cons, List.not_mem_nil, or_false] at hm
  rcases hm with rfl | rfl | rfl | rfl | rfl | rfl | rfl | rfl | rfl
  any_goals exact .number (by omega)
  · exact .text _
  · refine .array fun v hv => ?_
    obtain ⟨r, -, rfl⟩ := List.mem_map.mp hv
    exact p.faithful_registerToJson _ r

end Plan

/-! ## Reading a summary -/

/-- **Nothing of a plan is lost in its summary.** What is read from the text of the summary, compact
or with any indent, says everything about the plan, and no other plan has the same text. The width
of the column of labels is a 64-bit word, as the length of every text in memory is.

**Proof sketch.** The text is read as the summary itself (`faithful_toJson`). Where two texts are
the same, one value says everything about both plans (`SummarizedBy.unique`). -/
theorem Plan.parse_summary {p : Plan} (hcolumn : p.labelColumn < 2 ^ 64) :
    (∃ v, Json.parse p.toJson.compact = .ok v ∧
      (∀ step, Json.parse (p.toJson.pretty step) = .ok v) ∧ p.SummarizedBy v) ∧
      ∀ q : Plan, q.labelColumn < 2 ^ 64 → q.toJson.compact = p.toJson.compact → q = p := by
  have hparse : Json.parse p.toJson.compact = .ok p.toJson :=
    Json.parse_compact (faithful_toJson hcolumn)
  refine ⟨⟨_, hparse, Json.parse_pretty (faithful_toJson hcolumn), p.summarizedBy_toJson⟩, ?_⟩
  intro q hq hsame
  have hread : Json.parse q.toJson.compact = .ok q.toJson :=
    Json.parse_compact (faithful_toJson hq)
  rw [hsame, hparse] at hread
  have hvalue : p.toJson = q.toJson := Except.ok.inj hread
  exact q.summarizedBy_toJson.unique (hvalue ▸ p.summarizedBy_toJson)

/-- Registers at the ends of the largest address space, with labels that are escaped. -/
def escapedRegisters : List Register := [
  ⟨0x7fffffffffffffff, "say \"é\"\n", ⟨"ctrl"⟩, 0xff, by decide⟩,
  ⟨0, "C:\\", ⟨"w1c"⟩, 0, by decide⟩]

/-- Their plan has `2 ^ 63` slots, and this number and the labels are read back. -/
theorem Plan.parse_summary_escaped :
    ∃ p, plan "m" escapedRegisters 16 = .ok p ∧ p.labelColumn < 2 ^ 64 ∧
      ∃ v, Json.parse p.toJson.compact = .ok v ∧ BindsNumber v "num_registers" (2 ^ 63) ∧
        ∃ items, v.last? "registers" = some (.array items) ∧
          List.Forall₂ (Register.SummarizedBy 2) items escapedRegisters := by
  obtain ⟨p, hp⟩ : ∃ p, plan "m" escapedRegisters 16 = .ok p := ⟨_, rfl⟩
  obtain ⟨-, hregisters, hbits⟩ := plan_eq_ok hp
  have hcolumn : p.labelColumn < 2 ^ 64 := by
    rw [labelColumn_of_plan hp]
    decide
  have hslots : p.slots = 2 ^ 63 := by
    rw [slots, addressBits, hregisters]
    decide
  have hbytes : p.width.byteWidth = 2 :=
    Nat.mul_left_cancel (by decide : 0 < 8) hbits
  obtain ⟨⟨v, hv, -, hsummary⟩, -⟩ := parse_summary hcolumn
  obtain ⟨items, hitems, hall⟩ := hsummary.registers
  rw [hbytes, hregisters] at hall
  exact ⟨p, hp, hcolumn, v, hv, hslots ▸ hsummary.slots, items, hitems, hall⟩

end RegisterFile

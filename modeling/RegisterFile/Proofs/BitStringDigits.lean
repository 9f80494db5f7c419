import RegisterFile.Proofs.Outcome
import RegisterFile.Proofs.Vhdl.StandardRendering

set_option autoImplicit false

/-!
# The digits of bit string literals

A number is written as a bit string literal without loss: its digits are never cut, so that the
literal denotes the number whatever width is asked for, and different numbers have different
literals. The literal has as many bits as are asked for exactly if the number fits in them, and more
otherwise. The values on reset of a plan fit in its registers, so that their literals have the width
of the registers.

## Main definitions

* `SpellsBits` - a literal has the digits of a number, for so many bits.

## Main results

* `spellsBits_zeroPadded` - digits behind zeros make a literal of their number.
* `exists_bitString` - every number has a literal of every width that is not too large.
* `vhdlHex_spells` - what the filter yields, and what that means for the registers of a plan.
-/

namespace RegisterFile

open Numeral (digits upperDigits zeroPadded value?)

/-! ## Alphabets -/

/-- The digits of hexadecimal literals. -/
def hexAlphabet : List Char :=
  ['0', '1', '2', '3', '4', '5', '6', '7', '8', '9', 'A', 'B', 'C', 'D', 'E', 'F']

/-- The digits of binary literals. -/
def binaryAlphabet : List Char := ['0', '1']

/-- Digits in upper case are those of hexadecimal literals. -/
lemma mem_hexAlphabet {n : Nat} {c : Char} (h : c ∈ upperDigits 16 n) : c ∈ hexAlphabet := by
  have hdigit : ∀ d < 16, (Nat.digitChar d).toUpper ∈ hexAlphabet := by decide
  obtain ⟨a, ha, rfl⟩ := List.mem_map.mp h
  obtain ⟨d, hd, rfl⟩ := Numeral.exists_of_mem_digits (by decide) ha
  exact hdigit d hd

/-- The digits to the base two are those of binary literals. -/
lemma mem_binaryAlphabet {n : Nat} {c : Char} (h : c ∈ digits 2 n) : c ∈ binaryAlphabet := by
  have hdigit : ∀ d < 2, Nat.digitChar d ∈ binaryAlphabet := by decide
  obtain ⟨d, hd, rfl⟩ := Numeral.exists_of_mem_digits (by decide) h
  exact hdigit d hd

/-! ## Spelling -/

/-- The literal has the digits of `value` between quotation marks behind a mark, with `step` bits
for each digit. They denote the value, and they are as many as `bits` asks for exactly if the value
fits in so many bits. -/
def SpellsBits (mark alphabet : List Char) (step bits value : Nat) (literal : String) : Prop :=
  ∃ ds, literal = String.ofList (mark ++ '"' :: ds ++ ['"']) ∧ (∀ d ∈ ds, d ∈ alphabet) ∧
    value? (2 ^ step) ds = some value ∧ (step * ds.length = bits ↔ value < 2 ^ bits) ∧
    (2 ^ bits ≤ value → bits < step * ds.length)

/-- **Digits behind zeros make a literal of their number.** -/
theorem spellsBits_zeroPadded {mark alphabet ds : List Char} {step count value : Nat}
    (hstep : 0 < step) (hcount : 0 < count) (hds : ∀ d ∈ ds, d ∈ alphabet)
    (hzero : '0' ∈ alphabet) (hlength : ds.length = (digits (2 ^ step) value).length)
    (hvalue : value? (2 ^ step) (zeroPadded count ds) = some value) :
    SpellsBits mark alphabet step (step * count) value
      (String.ofList (mark ++ '"' :: zeroPadded count ds ++ ['"'])) := by
  have hradix : 1 < 2 ^ step := Nat.one_lt_two_pow hstep.ne'
  have hfits : ds.length ≤ count ↔ value < 2 ^ (step * count) := by
    rw [hlength, Numeral.length_digits_le_iff hradix hcount, pow_mul]
  refine ⟨zeroPadded count ds, rfl, ?_, hvalue, ?_, ?_⟩
  · intro d hd
    rw [zeroPadded, List.mem_append] at hd
    rcases hd with hd | hd
    · rw [(List.mem_replicate.mp hd).2]
      exact hzero
    · exact hds d hd
  · rw [Numeral.length_zeroPadded, ← hfits, Nat.mul_right_inj hstep.ne']
    omega
  · intro hlarge
    have hmore : count < ds.length := by
      by_contra hle
      exact absurd (hfits.mp (by omega)) (Nat.not_lt.mpr hlarge)
    rw [Numeral.length_zeroPadded, Nat.max_eq_right hmore.le]
    exact Nat.mul_lt_mul_of_pos_left hmore hstep

/-! ## Literals -/

section Literals

variable {bits value : Nat}

/-- Where four divides the bits the literal has hexadecimal digits. -/
lemma exists_bitString_hex (hdvd : 4 ∣ bits) (hbits : 1 ≤ bits)
    (hwide : bits / 4 ≤ Text.widestField) :
    ∃ literal, bitString bits value = .ok literal ∧
      SpellsBits ['x'] hexAlphabet 4 bits value literal := by
  refine ⟨_, bitString_eq_hex (Nat.mod_eq_zero_of_dvd hdvd) hwide value, ?_⟩
  have hlength : (upperDigits 16 value).length = (digits (2 ^ 4) value).length := List.length_map _
  have hspells : SpellsBits ['x'] hexAlphabet 4 (4 * (bits / 4)) value _ :=
    spellsBits_zeroPadded (by decide) (by omega) (fun _ => mem_hexAlphabet) (by decide) hlength
      (value?_zeroPadded_upperDigits (bits / 4) value)
  rwa [Nat.mul_div_cancel' hdvd] at hspells

/-- Otherwise it has binary digits. -/
lemma exists_bitString_binary (hdvd : ¬ 4 ∣ bits) (hwide : bits ≤ Text.widestField) :
    ∃ literal, bitString bits value = .ok literal ∧
      SpellsBits [] binaryAlphabet 1 bits value literal := by
  have hmod : bits % 4 ≠ 0 := fun h => hdvd (Nat.dvd_of_mod_eq_zero h)
  refine ⟨_, bitString_eq_binary hmod hwide value, ?_⟩
  have hspells : SpellsBits [] binaryAlphabet 1 (1 * bits) value _ :=
    spellsBits_zeroPadded (by decide) (by omega) (fun _ => mem_binaryAlphabet) (by decide) rfl
      (value?_zeroPadded_digits bits value)
  rwa [Nat.one_mul] at hspells

/-- **Every number has a literal** of every width whose digits are not too many. -/
theorem exists_bitString (hbits : 1 ≤ bits) (hwide : bitStringDigits bits ≤ Text.widestField) :
    ∃ literal, bitString bits value = .ok literal ∧
      (4 ∣ bits → SpellsBits ['x'] hexAlphabet 4 bits value literal) ∧
      (¬ 4 ∣ bits → SpellsBits [] binaryAlphabet 1 bits value literal) := by
  by_cases hdvd : 4 ∣ bits
  · rw [bitStringDigits, if_pos (Nat.mod_eq_zero_of_dvd hdvd)] at hwide
    obtain ⟨literal, hliteral, hspells⟩ := exists_bitString_hex hdvd hbits hwide
    exact ⟨literal, hliteral, fun _ => hspells, fun h => absurd hdvd h⟩
  · rw [bitStringDigits, if_neg fun h => hdvd (Nat.dvd_of_mod_eq_zero h)] at hwide
    obtain ⟨literal, hliteral, hspells⟩ := exists_bitString_binary hdvd hwide
    exact ⟨literal, hliteral, fun h => absurd h hdvd, fun _ => hspells⟩

/-- A literal denotes the number that it is written for. -/
lemma bitStringValue?_of_bitString {literal : String} (h : bitString bits value = .ok literal) :
    ∃ n, bitStringValue? literal = some (n, value) := by
  obtain ⟨count, -, hliteral⟩ := bind_eq_ok_iff.mp h
  split at hliteral
  · obtain rfl := Except.ok.inj hliteral
    exact ⟨_, bitStringValue?_hexDigits (value?_zeroPadded_upperDigits count value)⟩
  · obtain rfl := Except.ok.inj hliteral
    exact ⟨_, bitStringValue?_binaryDigits (value?_zeroPadded_digits count value)⟩

end Literals

/-! ## The filter -/

namespace Template

variable {arguments : Arguments} {n : Nat}

/-- What the filter yields for a number is a literal of some width. -/
lemma exists_bitString_of_vhdlHex {literal : String}
    (h : vhdlHex (.integer n) arguments = .ok (.text literal)) :
    ∃ bits, bitString bits n = .ok literal := by
  have hvalue : wordValue "vhdl_hex" (.integer n) = .ok n := rfl
  rw [vhdlHex, hvalue, ok_bind] at h
  obtain ⟨bits, -, h⟩ := bind_eq_ok_iff.mp h
  obtain ⟨s, hs, h⟩ := bind_eq_ok_iff.mp h
  obtain rfl := Value.text.inj (Except.ok.inj h)
  exact ⟨bits, mapError_eq_ok_iff.mp hs⟩

/-- **Bit string literals are written without loss.** The filter yields the digits of a number for
as many bits as are asked for, and for more if the number does not fit; no two numbers have the same
literal. The value on reset of every register of a plan has a literal of the register's width, if
that is not too large. -/
theorem vhdlHex_spells :
    (∀ (value : UInt64) (bits : Nat) (arguments : Arguments), 1 ≤ bits →
      bitStringDigits bits ≤ 65535 → arguments.lookup "bits" = some (.integer bits) →
        ∃ literal, vhdlHex (.integer value.toNat) arguments = .ok (.text literal) ∧
          (4 ∣ bits → SpellsBits ['x'] hexAlphabet 4 bits value.toNat literal) ∧
          (¬ 4 ∣ bits → SpellsBits [] binaryAlphabet 1 bits value.toNat literal)) ∧
    (∀ (v w : UInt64) (arguments arguments' : Arguments) (literal : String),
      vhdlHex (.integer v.toNat) arguments = .ok (.text literal) →
        vhdlHex (.integer w.toNat) arguments' = .ok (.text literal) → v = w) ∧
    ∀ (moduleName : String) (registers : List Register) (bits : UInt32) (p : Plan),
      plan moduleName registers bits = .ok p → bits.toNat ≤ 2 ^ 17 → ∀ r ∈ registers,
        vhdlHex (.integer r.initval.toNat) [("bits", .integer p.width.bits)] =
            .ok (.text (p.resetLiteral r)) ∧
          bitStringValue? (p.resetLiteral r) = some (bits.toNat, r.initval.toNat) := by
  refine ⟨?_, ?_, ?_⟩
  · intro value bits arguments hbits hwide harguments
    obtain ⟨literal, hliteral, hspells⟩ := exists_bitString hbits hwide
    exact ⟨literal, vhdlHex_eq_ok harguments hliteral, hspells⟩
  · intro v w arguments arguments' literal hv hw
    obtain ⟨bits, hv⟩ := exists_bitString_of_vhdlHex hv
    obtain ⟨bits', hw⟩ := exists_bitString_of_vhdlHex hw
    obtain ⟨k, hk⟩ := bitStringValue?_of_bitString hv
    obtain ⟨l, hl⟩ := bitStringValue?_of_bitString hw
    rw [hk, Option.some.injEq, Prod.mk.injEq] at hl
    exact UInt64.toNat_inj.mp hl.2
  · intro moduleName registers bits p hplan hbits r hr
    obtain ⟨-, rfl, hwidth⟩ := plan_eq_ok hplan
    have hwide : p.width.bits / 4 ≤ Text.widestField := by
      rw [hwidth, Text.widestField]
      omega
    refine ⟨vhdlHex_eq_ok rfl (bitString_eq_hex p.width.bits_mod_four hwide _), ?_⟩
    rw [p.bitStringValue?_resetLiteral hr, hwidth]

/-- A number of nine bits is written for eight of them, and a value on reset for as many as its
register has. -/
theorem vhdlHex_spells_overflow :
    (∃ literal, vhdlHex (.integer (0x1ff : UInt64).toNat) [("bits", .integer (8 : Nat))] =
        .ok (.text literal) ∧ SpellsBits ['x'] hexAlphabet 4 8 0x1ff literal) ∧
      (∃ literal, vhdlHex (.integer (5 : UInt64).toNat) [("bits", .integer (6 : Nat))] =
        .ok (.text literal) ∧ SpellsBits [] binaryAlphabet 1 6 5 literal) ∧
      ∃ p, plan "m" [⟨0, "wide", ⟨"ctrl"⟩, 0xbeef, by decide⟩] 128 = .ok p ∧
        ∀ r ∈ p.registers, bitStringValue? (p.resetLiteral r) = some (128, 0xbeef) := by
  obtain ⟨hspells, -, hplan⟩ := vhdlHex_spells
  refine ⟨?_, ?_, ?_⟩
  · obtain ⟨literal, hliteral, hhex, -⟩ :=
      hspells 0x1ff 8 [("bits", .integer (8 : Nat))] (by decide) (by decide) rfl
    exact ⟨literal, hliteral, hhex (by decide)⟩
  · obtain ⟨literal, hliteral, -, hbinary⟩ :=
      hspells 5 6 [("bits", .integer (6 : Nat))] (by decide) (by decide) rfl
    exact ⟨literal, hliteral, hbinary (by decide)⟩
  · obtain ⟨p, hp⟩ : ∃ p, plan "m" [⟨0, "wide", ⟨"ctrl"⟩, 0xbeef, by decide⟩] 128 = .ok p :=
      ⟨_, rfl⟩
    obtain ⟨-, hregisters, -⟩ := plan_eq_ok hp
    refine ⟨p, hp, ?_⟩
    intro r hr
    rw [hregisters] at hr
    obtain ⟨-, hvalue⟩ := hplan _ _ _ p hp (by decide) r hr
    obtain rfl := List.mem_singleton.mp hr
    exact hvalue

/-- A literal of nine bits has three digits. -/
example : bitString 8 0x1ff = .ok "x\"1FF\"" := by cbv

end Template

end RegisterFile

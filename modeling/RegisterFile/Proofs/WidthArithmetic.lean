import Mathlib.Analysis.SpecialFunctions.Log.Base
import RegisterFile.Proofs.Width

set_option autoImplicit false

/-!
# The arithmetic of widths

The number of bits of a word is the least width that holds it, which is the logarithm of its
successor, rounded up. The logarithm is taken of a natural number here, so that it is defined for
the greatest word too, whose successor is no word. The register widths are the powers of two with an
exponent from three to thirty-one, and their bytes and the logarithm of these follow from the
exponent.

## Main definitions

* `RegisterWidth.HasExponent` - what a width is that has two to the power of an exponent as bits.

## Main results

* `bitsRequired_eq_clog` - the bits of a number as a logarithm that is rounded up.
* `RegisterWidth.hasExponent_of_bits_eq` - a width follows from the exponent of its bits.
* `RegisterWidth.exact_arithmetic` - bits, widths and what they hold, for all words.
-/

namespace RegisterFile

/-! ## Bits as a logarithm -/

/-- The bits of a number are the logarithm of its successor, rounded up.

**Proof sketch.** Both are at most `k` exactly if the number is below `2 ^ k`. -/
theorem bitsRequired_eq_clog (n : ℕ) : bitsRequired n = Nat.clog 2 (n + 1) := by
  refine eq_of_forall_ge_iff fun k => ?_
  rw [bitsRequired_le_iff, Nat.clog_le_iff_le_pow (by norm_num), Nat.succ_le_iff]

/-- The logarithm of natural numbers, rounded up, is that of real numbers. -/
lemma bitsRequired_eq_ceil_logb (n : ℕ) : bitsRequired n = ⌈Real.logb 2 (n + 1)⌉₊ := by
  have hceil := Real.natCeil_logb_natCast 2 (n + 1)
  push_cast at hceil
  rw [hceil, bitsRequired_eq_clog]

/-- The bits of a number are the least width that holds it. -/
lemma isLeast_bitsRequired (n : ℕ) : IsLeast {k | n < 2 ^ k} (bitsRequired n) :=
  ⟨lt_two_pow_bitsRequired n, fun k hk => (bitsRequired_le_iff n k).mpr hk⟩

namespace RegisterWidth

/-! ## Widths by their exponents -/

/-- A width has two to the power of `k` as bits, and its other measures are those that follow from
`k`. -/
structure HasExponent (w : RegisterWidth) (k : ℕ) : Prop where
  bits : w.bits = 2 ^ k
  byteWidth : w.byteWidth = 2 ^ (k - 3)
  log2Bytes : w.log2Bytes = k - 3
  /-- A value can be stored exactly if it is below two to the power of the bits. -/
  canRepresent : ∀ value : UInt64, w.canRepresent value = true ↔ value.toNat < 2 ^ 2 ^ k
  /-- A width of 64 bits or more holds every value. -/
  canRepresent_all : 64 ≤ w.bits → ∀ value : UInt64, w.canRepresent value = true

/-- A width of 64 bits or more holds every value. -/
lemma canRepresent_of_le {w : RegisterWidth} (h : 64 ≤ w.bits) (value : UInt64) :
    w.canRepresent value = true :=
  (w.canRepresent_iff value).mpr
    (value.toNat_lt.trans_le (Nat.pow_le_pow_right (by norm_num) h))

/-- A width follows from the exponent of its bits. -/
theorem hasExponent_of_bits_eq {w : RegisterWidth} {k : ℕ} (h : w.bits = 2 ^ k) :
    w.HasExponent k := by
  have hlog : w.log2Bytes = k - 3 := by
    have hexponent : w.log2Bytes + 3 = k :=
      Nat.pow_right_injective le_rfl (w.bits_eq_two_pow.symm.trans h)
    omega
  refine ⟨h, ?_, hlog, fun value => ?_, canRepresent_of_le⟩
  · rw [byteWidth_eq_two_pow, hlog]
  · rw [canRepresent_iff, h]

/-- The words that are widths are the powers of two with an exponent from three to thirty-one. -/
lemma exists_ofBits?_iff (bits : UInt32) :
    (∃ w, ofBits? bits = some w) ↔ ∃ k, 3 ≤ k ∧ k ≤ 31 ∧ bits.toNat = 2 ^ k := by
  rw [← Option.isSome_iff_exists, ← Option.ne_none_iff_isSome, Ne, ofBits?_eq_none_iff, not_not]
  refine exists_congr fun k => and_congr_right fun _ => ?_
  refine (and_iff_right_of_imp fun hbits => ?_).symm
  exact Nat.lt_succ_iff.mp (log2_lt_of_pow_eq hbits.symm)

/-- **The arithmetic of widths is exact for all words.** So many bits are enough for a value exactly
if it is below that power of two, which makes the bits of the value the least width that holds it
and the logarithm of its successor, rounded up, for the greatest word as well. A word is a width
exactly if it is a power of two with an exponent from three to thirty-one, and the width has this
exponent. -/
theorem exact_arithmetic :
    (∀ (value : UInt64) (n : ℕ), bitsRequired value.toNat ≤ n ↔ value.toNat < 2 ^ n) ∧
    (∀ value : UInt64, IsLeast {n | value.toNat < 2 ^ n} (bitsRequired value.toNat) ∧
      bitsRequired value.toNat = ⌈Real.logb 2 (value.toNat + 1)⌉₊) ∧
    ∀ bits : UInt32,
      ((∃ w, ofBits? bits = some w) ↔ ∃ k, 3 ≤ k ∧ k ≤ 31 ∧ bits.toNat = 2 ^ k) ∧
      ∀ w k, ofBits? bits = some w → bits.toNat = 2 ^ k → w.HasExponent k := by
  refine ⟨fun value n => bitsRequired_le_iff _ _, fun value => ⟨isLeast_bitsRequired _,
    bitsRequired_eq_ceil_logb _⟩, fun bits => ⟨exists_ofBits?_iff bits, fun w k hw hk => ?_⟩⟩
  exact hasExponent_of_bits_eq (((ofBits?_eq_some_iff bits w).mp hw).trans hk)

/-- The greatest word needs 64 bits, and the greatest power of two among the 32-bit words is a
width. -/
theorem exact_arithmetic_greatest :
    bitsRequired (18446744073709551615 : UInt64).toNat = 64 ∧
      ∃ w, ofBits? 2147483648 = some w ∧ w.HasExponent 31 := by
  obtain ⟨hbits, -, hwidth⟩ := exact_arithmetic
  obtain ⟨hvalid, hexponent⟩ := hwidth 2147483648
  obtain ⟨w, hw⟩ := hvalid.mpr ⟨31, by decide, by decide, by decide⟩
  have hupper := (hbits 18446744073709551615 64).mpr (by decide)
  have hlower := mt (hbits 18446744073709551615 63).mp (by decide)
  exact ⟨by omega, w, hw, hexponent w 31 hw (by decide)⟩

end RegisterWidth

end RegisterFile

import Mathlib.Data.Nat.Digits.Lemmas
import RegisterFile.Width

set_option autoImplicit false

/-!
# Laws of register widths

A width is a power of two, and a value can be stored in a register exactly if it stays below the
power of two that the width is the exponent of. The widths are the powers of two of at least one
byte that fit in 32 bits.

## Main results

* `bitsRequired_le_iff` - so many bits are enough for the numbers below that power of two.
* `bitsRequired_eq_length_digits` - the bits of a number are its binary digits.
* `RegisterWidth.ofBits?_eq_some_iff`, `RegisterWidth.ofBits?_eq_none_iff` - which words are widths.
* `RegisterWidth.canRepresent_iff` - which values a register can store.
-/

namespace RegisterFile

/-! ## Bits of a number -/

/-- So many bits are enough for a number exactly if it is below that power of two. -/
theorem bitsRequired_le_iff (n k : Nat) : bitsRequired n ≤ k ↔ n < 2 ^ k := by
  unfold bitsRequired
  split_ifs with h
  · simp [h]
  · rw [Nat.succ_le_iff, Nat.log2_lt h]

/-- A number is below the power of two of its bits. -/
lemma lt_two_pow_bitsRequired (n : Nat) : n < 2 ^ bitsRequired n :=
  (bitsRequired_le_iff n _).mp le_rfl

/-- The bits of a number are its binary digits. -/
theorem bitsRequired_eq_length_digits (n : Nat) : bitsRequired n = (Nat.digits 2 n).length := by
  refine eq_of_forall_ge_iff fun k => ?_
  rw [bitsRequired_le_iff, Nat.digits_length_le_iff (by norm_num)]

namespace RegisterWidth

/-! ## Widths as words -/

/-- The width in bytes is a power of two. -/
lemma byteWidth_eq_two_pow (w : RegisterWidth) : w.byteWidth = 2 ^ w.log2Bytes := rfl

/-- The width in bits is a power of two. -/
lemma bits_eq_two_pow (w : RegisterWidth) : w.bits = 2 ^ (w.log2Bytes + 3) := by
  rw [bits, byteWidth_eq_two_pow, pow_add]
  ring

/-- A hexadecimal digit stands for four of the bits. -/
lemma bits_mod_four (w : RegisterWidth) : w.bits % 4 = 0 := by
  rw [bits]
  omega

/-- A width is determined by its bits. -/
lemma bits_injective : Function.Injective bits := by
  intro v w h
  rw [bits_eq_two_pow, bits_eq_two_pow] at h
  have hlog := Nat.pow_right_injective le_rfl h
  cases v
  cases w
  simp only [mk.injEq] at hlog ⊢
  omega

/-- The logarithm of the bytes is that of an eighth of the bits. -/
lemma log2Bytes_eq_log (w : RegisterWidth) : w.log2Bytes = Nat.log 2 (w.bits / 8) := by
  rw [bits, Nat.mul_div_cancel_left _ (by norm_num), byteWidth_eq_two_pow,
    Nat.log_pow (by norm_num)]

/-- A word is the width of so many bits exactly if it counts them. -/
theorem ofBits?_eq_some_iff (bits : UInt32) (w : RegisterWidth) :
    ofBits? bits = some w ↔ w.bits = bits.toNat := by
  unfold ofBits?
  split_ifs with h
  · obtain ⟨hge, hpow⟩ := h
    have hlog : 3 ≤ bits.toNat.log2 := (Nat.le_log2 (by omega)).mpr hge
    have hbits : (⟨bits.toNat.log2 - 3, by have := log2_lt_of_pow_eq hpow; omega⟩ :
        RegisterWidth).bits = bits.toNat := by
      rw [bits_eq_two_pow, Nat.sub_add_cancel hlog]
      exact hpow
    constructor
    · rintro ⟨⟩
      exact hbits
    · intro hw
      rw [bits_injective (hbits.trans hw.symm)]
  · refine iff_of_false (by simp) fun hw => h ?_
    rw [← hw, bits_eq_two_pow, Nat.log2_two_pow]
    have hge : 2 ^ 3 ≤ 2 ^ (w.log2Bytes + 3) :=
      Nat.pow_le_pow_right (by norm_num) (Nat.le_add_left 3 _)
    exact ⟨hge, rfl⟩

/-- A word is no width exactly if it is no power of two of at least one byte. -/
theorem ofBits?_eq_none_iff (bits : UInt32) :
    ofBits? bits = none ↔ ¬ ∃ k, 3 ≤ k ∧ bits.toNat = 2 ^ k := by
  rw [← Option.not_isSome_iff_eq_none, not_iff_not, Option.isSome_iff_exists]
  constructor
  · rintro ⟨w, hw⟩
    exact ⟨w.log2Bytes + 3, by omega,
      ((ofBits?_eq_some_iff bits w).mp hw).symm.trans w.bits_eq_two_pow⟩
  · rintro ⟨k, hk, hbits⟩
    have hlt := log2_lt_of_pow_eq hbits.symm
    refine ⟨⟨k - 3, by omega⟩, (ofBits?_eq_some_iff bits _).mpr ?_⟩
    rw [bits_eq_two_pow, Nat.sub_add_cancel hk, hbits]

/-- A value can be stored exactly if it is below the power of two of the width. -/
theorem canRepresent_iff (w : RegisterWidth) (value : UInt64) :
    w.canRepresent value = true ↔ value.toNat < 2 ^ w.bits := by
  rw [canRepresent, decide_eq_true_iff, bitsRequired_le_iff]

end RegisterWidth

end RegisterFile

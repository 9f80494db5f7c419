import Mathlib.Algebra.Order.Field.Basic
import Mathlib.Data.List.Induction
import Mathlib.Tactic.Positivity
import RegisterFile.Proofs.Json.NumberLiteral

set_option autoImplicit false

/-!
# Which number literals are kept exactly

The mantissa that is kept of a literal is the number that its digits stand for, or this number
without some of its last digits, or a smaller number: a digit that does not fit is dropped for good,
and a smaller digit behind it may fit again. Nothing is lost exactly if the digits without their
last zeros fit the mantissa.

A number with exponent zero is taken for an integer. If digits are dropped in a number that has a
fraction or an exponent, the exponent of what is kept may be zero although the literal stands for
another number. The literals for which this does not happen are described here by their digits and
their exponents alone.

## Main definitions

* `Json.Short` - a number whose digits, last zeros apart, fit the mantissa.
* `Json.Keeps` - what is kept of digits in relation to the number that they stand for.
* `Json.NumberLiteral.Fits` - a literal of which nothing is lost.

## Main results

* `Json.keeps_foldl_keepDigit` - what is kept of digits.
* `Json.Keeps.exact_iff` - nothing is lost exactly of a number that is short.
* `Json.NumberLiteral.toInt?_stored_eq_value_iff` - when a literal that is taken for an integer
  stands for this integer.
-/

namespace RegisterFile.Json

open IntegerLiteral (Sign)

/-! ## Digits that are kept -/

/-- A number whose digits, last zeros apart, fit the mantissa. -/
def Short (n : Nat) : Prop :=
  ∃ c t, n = c * 10 ^ t ∧ c < mantissaBound

/-- A number that does not fit the mantissa is short only if it ends in a zero. -/
lemma Short.of_append {n d : Nat} (hd : d < 10) (hlarge : mantissaBound ≤ 10 * n + d)
    (h : Short (10 * n + d)) : d = 0 ∧ Short n := by
  obtain ⟨c, t, heq, hc⟩ := h
  cases t with
  | zero => omega
  | succ t =>
    rw [pow_succ, ← mul_assoc] at heq
    obtain ⟨rfl, hn⟩ : d = 0 ∧ n = c * 10 ^ t := by omega
    exact ⟨rfl, c, t, hn, hc⟩

/-- What is kept of digits that stand for `n`: a mantissa `m`, with `k` digits dropped. -/
inductive Keeps (n m k : Nat) : Prop
  /-- All digits are appended to the mantissa. -/
  | all (hk : k = 0) (hm : m = n)
  /-- Zeros are dropped at the end, and no further digit fits. -/
  | zeros (hn : m * 10 ^ k = n) (hfull : mantissaBound ≤ 10 * m)
  /-- Something is lost, and the mantissa falls short of the digits, but by less than a digit. -/
  | fewer (hlt : m * 10 ^ k < n) (hn : n < 10 * (m * 10 ^ k))
      (hfull : mantissaBound * 10 ^ k ≤ 10 * n) (hlong : ¬ Short n)

/-- A digit is appended exactly if the mantissa stays below its bound. -/
lemma appendDigit?_eq_some_iff {m d m' : Nat} :
    appendDigit? m d = some m' ↔ 10 * m + d = m' ∧ m' < mantissaBound := by
  rw [appendDigit?]
  split_ifs with h
  · rw [Option.some.injEq]
    exact ⟨fun heq => ⟨heq, heq ▸ h⟩, fun heq => heq.1⟩
  · exact ⟨nofun, fun heq => absurd (heq.1 ▸ heq.2) h⟩

/-- A digit is not appended exactly if the mantissa would reach its bound. -/
lemma appendDigit?_eq_none_iff {m d : Nat} :
    appendDigit? m d = none ↔ mantissaBound ≤ 10 * m + d := by
  rw [appendDigit?]
  split_ifs with h
  · exact ⟨nofun, fun hle => absurd h (not_lt.mpr hle)⟩
  · exact ⟨fun _ => not_lt.mp h, fun _ => rfl⟩

section Step

variable {n m k d : Nat}

/-- A digit that is appended keeps the mantissa in its relation to the digits.

**Proof sketch.** If something is lost, the digits stand for more than any mantissa with as many
zeros, and for more than the new one in particular. -/
lemma Keeps.append (h : Keeps n m k) (hd : d < 10) (hfits : 10 * m + d < mantissaBound) :
    Keeps (10 * n + d) (10 * m + d) k := by
  cases h with
  | all hk hm => exact .all hk (by rw [hm])
  | zeros hn hfull => omega
  | fewer hlt hn hfull hlong =>
    have hpos : 0 < 10 ^ k := pow_pos (by decide) k
    have hnext : (10 * m + d + 1) * 10 ^ k ≤ 10 * n :=
      (Nat.mul_le_mul_right _ hfits).trans hfull
    have hlarge : mantissaBound ≤ 10 * n + d :=
      ((Nat.le_mul_of_pos_right _ hpos).trans hfull).trans (Nat.le_add_right _ _)
    refine .fewer ?_ ?_ (by omega) fun hshort => hlong (hshort.of_append hd hlarge).2
    · rw [Nat.add_mul, Nat.one_mul] at hnext
      omega
    · rw [Nat.add_mul, Nat.mul_assoc]
      omega

/-- The first digit that is dropped, or one behind zeros that are dropped: a zero is lost without
harm, and any other digit makes the digits stand for a number that is not short. -/
lemma Keeps.drop_of_exact (hn : m * 10 ^ k = n) (hd : d < 10)
    (hfull : mantissaBound ≤ 10 * m + d) (hlarge : mantissaBound * 10 ^ k ≤ 10 * n + d) :
    Keeps (10 * n + d) m (k + 1) := by
  have hnext : m * 10 ^ (k + 1) = 10 * n := by rw [pow_succ, ← mul_assoc, hn, mul_comm]
  by_cases hzero : d = 0
  · subst hzero
    exact .zeros hnext hfull
  · have hpos : 0 < 10 ^ k := pow_pos (by decide) k
    have hbound : mantissaBound ≤ 10 * n + d := (Nat.le_mul_of_pos_right _ hpos).trans hlarge
    have hmantissa : 10 < mantissaBound := by decide
    refine .fewer (by omega) (by omega) ?_ fun hshort => hzero (hshort.of_append hd hbound).1
    rw [pow_succ, ← mul_assoc]
    omega

/-- A digit that is dropped keeps the mantissa in its relation to the digits. -/
lemma Keeps.drop (h : Keeps n m k) (hd : d < 10) (hfull : mantissaBound ≤ 10 * m + d) :
    Keeps (10 * n + d) m (k + 1) := by
  cases h with
  | all hk hm =>
    subst hk hm
    exact .drop_of_exact (by rw [pow_zero, mul_one]) hd hfull (by rwa [pow_zero, mul_one])
  | zeros hn hfull' =>
    refine .drop_of_exact hn hd hfull ?_
    have hscaled : mantissaBound * 10 ^ k ≤ 10 * m * 10 ^ k := Nat.mul_le_mul_right _ hfull'
    rw [mul_assoc, hn] at hscaled
    omega
  | fewer hlt hn hfull' hlong =>
    have hpos : 0 < 10 ^ k := pow_pos (by decide) k
    have hlarge : mantissaBound ≤ 10 * n + d :=
      ((Nat.le_mul_of_pos_right _ hpos).trans hfull').trans (Nat.le_add_right _ _)
    have hnext : m * 10 ^ (k + 1) = 10 * (m * 10 ^ k) := by rw [pow_succ, ← mul_assoc, mul_comm]
    refine .fewer (by omega) (by omega) ?_ fun hshort => hlong (hshort.of_append hd hlarge).2
    rw [pow_succ, ← mul_assoc]
    omega

end Step

/-- **A further digit**, appended or dropped, keeps what is kept in its relation to the digits. -/
lemma Keeps.keepDigit {n : Nat} {kept : Nat × Nat} (h : Keeps n kept.1 kept.2) (d : Fin 10) :
    Keeps (10 * n + d) (keepDigit kept d).1 (keepDigit kept d).2 := by
  cases happend : appendDigit? kept.1 d with
  | some m =>
    obtain ⟨rfl, hfits⟩ := appendDigit?_eq_some_iff.mp happend
    rw [keepDigit_of_some happend]
    exact h.append d.isLt hfits
  | none =>
    rw [keepDigit_of_none happend]
    exact h.drop d.isLt (appendDigit?_eq_none_iff.mp happend)

/-- **What is kept of digits** is in this relation to the number that they stand for.

**Proof sketch.** Induction on the digits with one more digit at their end; without digits nothing
is dropped. -/
theorem keeps_foldl_keepDigit (ds : List (Fin 10)) :
    Keeps (decimal ds) (ds.foldl keepDigit (0, 0)).1 (ds.foldl keepDigit (0, 0)).2 := by
  induction ds using List.reverseRec with
  | nil => exact .all rfl rfl
  | append_singleton ds d ih =>
    rw [decimal_append_singleton, List.foldl_append]
    exact ih.keepDigit d

/-- Mantissas stay below their bound. -/
lemma foldl_keepDigit_lt (ds : List (Fin 10)) (kept : Nat × Nat) (h : kept.1 < mantissaBound) :
    (ds.foldl keepDigit kept).1 < mantissaBound := by
  induction ds generalizing kept with
  | nil => exact h
  | cons d ds ih =>
    refine ih _ ?_
    cases happend : appendDigit? kept.1 d with
    | some m =>
      rw [keepDigit_of_some happend]
      exact (appendDigit?_eq_some_iff.mp happend).2
    | none =>
      rw [keepDigit_of_none happend]
      exact h

section Exact

variable {n m k : Nat}

/-- Without the digits that are dropped the number is not greater. -/
lemma Keeps.le (h : Keeps n m k) : m * 10 ^ k ≤ n := by
  cases h with
  | all hk hm => rw [hk, hm, pow_zero, mul_one]
  | zeros hn _ => exact hn.le
  | fewer hlt _ _ _ => exact hlt.le

/-- The digits stand for less than ten times what is kept of them. -/
lemma Keeps.lt (h : Keeps n m k) (hpos : 0 < n) : n < 10 * (m * 10 ^ k) := by
  cases h with
  | all hk hm =>
    rw [hk, hm, pow_zero, mul_one]
    omega
  | zeros hn _ => omega
  | fewer _ hn _ _ => exact hn

/-- **Nothing is lost exactly of a number that is short.** -/
theorem Keeps.exact_iff (h : Keeps n m k) (hm : m < mantissaBound) :
    m * 10 ^ k = n ↔ Short n := by
  refine ⟨fun hn => ⟨m, k, hn.symm, hm⟩, fun hshort => ?_⟩
  cases h with
  | all hk hm' => rw [hk, hm', pow_zero, mul_one]
  | zeros hn _ => exact hn
  | fewer _ _ _ hlong => exact absurd hshort hlong

end Exact

/-! ## Literals that are taken for integers -/

namespace NumberLiteral

variable (l : NumberLiteral)

/-- A literal of which nothing is lost: its digits, last zeros apart, fit the mantissa, and its
exponent is one that can be read, unless the digits are all zeros. -/
def Fits : Prop :=
  Short l.coefficient ∧ (l.coefficient = 0 ∨ l.exponentValue.natAbs ≤ 32767)

/-- The power of ten that is read from the exponent. -/
def exponentRead : Int :=
  l.exponent.elim 0 ExponentLiteral.read

variable {l}

/-- What is kept of a literal in relation to its digits. -/
lemma keeps_kept : Keeps l.coefficient l.kept.1 l.kept.2 :=
  keeps_foldl_keepDigit l.digits

/-- What is kept has exponent zero exactly if the digits that are dropped and the exponent that is
read make up for the digits behind the point. -/
lemma stored_exponent_eq_zero_iff :
    l.stored.exponent = 0 ↔ (l.kept.2 : Int) + l.exponentRead = l.fraction.length := by
  rw [stored, exponentRead]
  cases l.exponent with
  | none =>
    change l.keptExponent = 0 ↔ _ + 0 = _
    rw [keptExponent]
    omega
  | some e =>
    change clampExponent (l.keptExponent + e.read) = 0 ↔ _ + e.read = _
    rw [clampExponent, leastExponent, greatestExponent, keptExponent]
    omega

/-- The exponent that is read is the one that is spelled, unless this one is too large and another
one is read. -/
lemma exponentRead_cases : l.exponentRead = l.exponentValue ∧ l.exponentValue.natAbs ≤ 32767 ∨
    l.exponentRead < l.exponentValue ∧ 32767 < l.exponentValue.natAbs ∨
      l.exponentValue < l.exponentRead ∧ 32767 < l.exponentValue.natAbs := by
  rw [exponentRead, exponentValue]
  cases l.exponent with
  | none => exact .inl ⟨rfl, by decide⟩
  | some e =>
    change e.read = e.value ∧ e.value.natAbs ≤ 32767 ∨ e.read < e.value ∧ 32767 < e.value.natAbs ∨
      e.value < e.read ∧ 32767 < e.value.natAbs
    rw [ExponentLiteral.read, ExponentLiteral.value]
    cases e.sign <;> simp only [Sign.apply] <;> omega

/-- What is kept with exponent zero is the literal without its sign exactly if the digits that are
kept, with zeros for those that are dropped, are the digits that are spelled, shifted by what is
not read of the exponent. -/
lemma kept_eq_magnitude_iff (h : (l.kept.2 : Int) + l.exponentRead = l.fraction.length) :
    (l.kept.1 : ℚ) = l.magnitude ↔
      ((l.kept.1 * 10 ^ l.kept.2 : Nat) : ℚ) =
        l.coefficient * 10 ^ (l.exponentValue - l.exponentRead) := by
  have hten : (10 : ℚ) ≠ 0 := by norm_num
  have hpos : (10 : ℚ) ^ l.kept.2 ≠ 0 := pow_ne_zero _ hten
  have hexponent : l.exponentValue - l.exponentRead =
      l.exponentValue - l.fraction.length + l.kept.2 := by omega
  rw [magnitude, hexponent, zpow_add₀ hten, zpow_natCast, ← mul_assoc, Nat.cast_mul, Nat.cast_pow,
    Nat.cast_ofNat, mul_left_inj' hpos]

/-- A number is not a greater one with zeros behind its digits. -/
lemma ne_shift_left {x n : Nat} (hpos : 0 < n) (hle : x ≤ n) {e : Int} (he : 0 < e) :
    (x : ℚ) ≠ n * 10 ^ e := by
  obtain ⟨j, rfl⟩ : ∃ j : Nat, e = j + 1 := ⟨(e - 1).toNat, by omega⟩
  intro heq
  have hnat : x = n * 10 ^ (j + 1) := by exact_mod_cast heq
  have hten : n * 10 ^ 1 ≤ n * 10 ^ (j + 1) :=
    Nat.mul_le_mul_left n (Nat.pow_le_pow_right (by decide) (by omega))
  omega

/-- A number is not one of less than ten times its size with digits cut off behind. -/
lemma ne_shift_right {x n : Nat} (hlt : n < 10 * x) {e : Int} (he : e < 0) :
    (x : ℚ) ≠ n * 10 ^ e := by
  obtain ⟨j, rfl⟩ : ∃ j : Nat, e = -(j + 1 : Nat) := ⟨(-e - 1).toNat, by omega⟩
  intro heq
  rw [zpow_neg, ← div_eq_mul_inv, zpow_natCast, eq_div_iff (by positivity)] at heq
  have hnat : x * 10 ^ (j + 1) = n := by exact_mod_cast heq
  have hten : x * 10 ^ 1 ≤ x * 10 ^ (j + 1) :=
    Nat.mul_le_mul_left x (Nat.pow_le_pow_right (by decide) (by omega))
  omega

/-- **When a literal is kept exactly** as a number with exponent zero.

**Proof sketch.** If the exponent is read as it is spelled, the digits are kept exactly if they are
short. Otherwise it is off by one at least, and the mantissa is off by less than one digit. -/
lemma kept_eq_magnitude_iff_fits (h : l.stored.exponent = 0) :
    (l.kept.1 : ℚ) = l.magnitude ↔ l.Fits := by
  have hkeeps := keeps_kept (l := l)
  have hlt : l.kept.1 < mantissaBound := foldl_keepDigit_lt l.digits (0, 0) (by decide)
  rw [kept_eq_magnitude_iff (stored_exponent_eq_zero_iff.mp h), Fits,
    ← hkeeps.exact_iff hlt]
  by_cases hzero : l.coefficient = 0
  · have hkept : l.kept.1 * 10 ^ l.kept.2 = 0 := Nat.le_zero.mp (hzero ▸ hkeeps.le)
    rw [hkept, hzero]
    simp
  · have hpos := Nat.pos_of_ne_zero hzero
    have hunread (hlarge : 32767 < l.exponentValue.natAbs) : ¬ (l.kept.1 * 10 ^ l.kept.2 =
        l.coefficient ∧ (l.coefficient = 0 ∨ l.exponentValue.natAbs ≤ 32767)) :=
      fun hfits => hfits.2.elim hzero (not_le.mpr hlarge)
    rcases exponentRead_cases (l := l) with ⟨heq, hsmall⟩ | ⟨hlow, hlarge⟩ | ⟨hhigh, hlarge⟩
    · rw [heq, sub_self, zpow_zero, mul_one, Nat.cast_inj]
      simp [hsmall]
    · exact iff_of_false (ne_shift_left hpos hkeeps.le (sub_pos.mpr hlow)) (hunread hlarge)
    · exact iff_of_false (ne_shift_right (hkeeps.lt hpos) (sub_neg.mpr hhigh)) (hunread hlarge)

/-- **A literal that is taken for an integer stands for this integer exactly if nothing of it is
lost.** -/
theorem toInt?_stored_eq_value_iff {n : Int} (h : l.stored.toInt? = some n) :
    (n : ℚ) = l.value ↔ l.Fits := by
  rw [Number.toInt?] at h
  split_ifs at h with hexponent hnegative
  · obtain rfl := Option.some.inj h
    have hsign : l.negative = true := hnegative
    rw [← kept_eq_magnitude_iff_fits hexponent, value, if_pos hsign, Int.cast_neg, neg_inj,
      Int.cast_natCast]
    rfl
  · obtain rfl := Option.some.inj h
    have hsign : ¬ l.negative = true := hnegative
    rw [← kept_eq_magnitude_iff_fits hexponent, value, if_neg hsign, Int.cast_natCast]
    rfl

end NumberLiteral

end RegisterFile.Json

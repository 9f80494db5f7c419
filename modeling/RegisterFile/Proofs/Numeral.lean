import Mathlib.Data.Nat.Digits.Defs
import RegisterFile.Text.Numeral

set_option autoImplicit false

/-!
# Laws of numerals

Writing a number and reading its digits back gives the number, in every radix up to sixteen, in
letters of either case and behind any leading zeros.

## Main results

* `Numeral.value?_digits`, `Numeral.valueFrom?_upperDigits` - digits denote the number they are
  written for.
* `Numeral.value?_zeroPadded` - leading zeros do not count.
* `Numeral.le_of_valueFrom?` - a number does not shrink when further digits continue it.
-/

namespace RegisterFile.Numeral

/-! ## Single digits -/

/-- A written digit is read as its value. -/
lemma anyDigitValue?_digitChar {d : Nat} (hd : d < 16) :
    anyDigitValue? (Nat.digitChar d) = some d := by
  revert d
  decide

/-- A digit written in upper case is read as its value. -/
lemma anyDigitValue?_toUpper_digitChar {d : Nat} (hd : d < 16) :
    anyDigitValue? (Nat.digitChar d).toUpper = some d := by
  revert d
  decide

variable {radix : Nat}

/-- A digit of the radix is read as its value. -/
lemma digitValue?_digitChar (hr : radix ≤ 16) {d : Nat} (hd : d < radix) :
    digitValue? radix (Nat.digitChar d) = some d := by
  simp [digitValue?, anyDigitValue?_digitChar (hd.trans_le hr), hd]

/-- The digits of a number are digits of the radix. -/
lemma exists_of_mem_digits (h1 : 1 < radix) {n : Nat} {c : Char} (hc : c ∈ digits radix n) :
    ∃ d < radix, c = Nat.digitChar d := by
  induction n using Nat.strong_induction_on with
  | h n ih =>
    rw [digits, Nat.toDigits_eq_if h1] at hc
    split_ifs at hc with hn
    · exact ⟨n, hn, List.mem_singleton.mp hc⟩
    · rcases List.mem_append.mp hc with hc | hc
      · exact ih _ (Nat.div_lt_self (by omega) h1) hc
      · exact ⟨n % radix, Nat.mod_lt _ (by omega), List.mem_singleton.mp hc⟩

/-- A number has a digit. -/
lemma digits_ne_nil (n : Nat) : digits radix n ≠ [] := Nat.toDigits_ne_nil

/-- Only zero is written as zero. -/
lemma digitChar_ne_zero {d : Nat} (hd : d < 16) (h0 : 0 < d) : Nat.digitChar d ≠ '0' := by
  revert d
  decide

/-- The first digit of a positive number is no zero. -/
lemma exists_digits_eq_cons (h1 : 1 < radix) (hr : radix ≤ 16) {n : Nat} (hn : 0 < n) :
    ∃ c cs, c ≠ '0' ∧ digits radix n = c :: cs := by
  induction n using Nat.strong_induction_on with
  | h n ih =>
    rw [digits, Nat.toDigits_eq_if h1]
    split_ifs with hlt
    · exact ⟨_, [], digitChar_ne_zero (hlt.trans_le hr) hn, rfl⟩
    · have hdiv : 0 < n / radix := Nat.div_pos (by omega) (by omega)
      obtain ⟨c, cs, hc, hcs⟩ := ih _ (Nat.div_lt_self hn h1) hdiv
      rw [digits] at hcs
      exact ⟨c, cs ++ [Nat.digitChar (n % radix)], hc, by rw [hcs, List.cons_append]⟩

/-! ## Sequences of digits -/

/-- A number continued with digits, and then with further ones. -/
lemma valueFrom?_append (start : Nat) (cs ds : List Char) :
    valueFrom? radix start (cs ++ ds) =
      (valueFrom? radix start cs).bind fun m => valueFrom? radix m ds := by
  induction cs generalizing start with
  | nil => rfl
  | cons c cs ih =>
    rw [List.cons_append, valueFrom?, valueFrom?, Option.bind_assoc]
    simp only [ih]

/-- A number does not shrink when digits continue it. -/
theorem le_of_valueFrom? (h1 : 1 ≤ radix) {start n : Nat} {cs : List Char}
    (h : valueFrom? radix start cs = some n) : start ≤ n := by
  induction cs generalizing start with
  | nil => exact (Option.some.inj h).le
  | cons c cs ih =>
    obtain ⟨d, -, hd⟩ := Option.bind_eq_some_iff.mp h
    calc start ≤ radix * start := Nat.le_mul_of_pos_left _ h1
      _ ≤ radix * start + d := Nat.le_add_right _ _
      _ ≤ n := ih hd

/-- Digits that are read one by one as those of a number denote it, in whatever case they are. -/
lemma valueFrom?_map_digits (h1 : 1 < radix) (f : Char → Char)
    (hf : ∀ d < radix, digitValue? radix (f (Nat.digitChar d)) = some d) (n : Nat) :
    valueFrom? radix 0 ((digits radix n).map f) = some n := by
  induction n using Nat.strong_induction_on with
  | h n ih =>
    rw [digits, Nat.toDigits_eq_if h1]
    split_ifs with hlt
    · simp [valueFrom?, hf n hlt]
    · rw [List.map_append, valueFrom?_append, ← digits, ih _ (Nat.div_lt_self (by omega) h1)]
      simp [valueFrom?, hf _ (Nat.mod_lt n (by omega)), Nat.div_add_mod]

/-- The digits of a number denote it. -/
lemma valueFrom?_digits (h1 : 1 < radix) (hr : radix ≤ 16) (n : Nat) :
    valueFrom? radix 0 (digits radix n) = some n := by
  have h := valueFrom?_map_digits h1 id (fun d hd => digitValue?_digitChar hr hd) n
  rwa [List.map_id] at h

/-- The digits of a number in upper case denote it. -/
theorem valueFrom?_upperDigits (h1 : 1 < radix) (hr : radix ≤ 16) (n : Nat) :
    valueFrom? radix 0 (upperDigits radix n) = some n := by
  refine valueFrom?_map_digits h1 _ (fun d hd => ?_) n
  simp [digitValue?, anyDigitValue?_toUpper_digitChar (hd.trans_le hr), hd]

/-- Leading zeros do not count. -/
lemma valueFrom?_zeroPadded (h0 : 0 < radix) (count : Nat) (cs : List Char) :
    valueFrom? radix 0 (zeroPadded count cs) = valueFrom? radix 0 cs := by
  have hzero : digitValue? radix '0' = some 0 := by simp [digitValue?, anyDigitValue?, h0]
  rw [zeroPadded]
  induction count - cs.length with
  | zero => rfl
  | succ k ih =>
    rw [List.replicate_succ, List.cons_append, valueFrom?, hzero]
    exact ih

/-- The digits of a number are a numeral that denotes it. -/
theorem value?_digits (h1 : 1 < radix) (hr : radix ≤ 16) (n : Nat) :
    value? radix (digits radix n) = some n := by
  rw [value?, List.isEmpty_eq_false_iff.mpr (digits_ne_nil n)]
  exact valueFrom?_digits h1 hr n

/-- A numeral with leading zeros denotes what it does without them. -/
theorem value?_zeroPadded (h0 : 0 < radix) (count : Nat) {cs : List Char} (hcs : cs ≠ []) :
    value? radix (zeroPadded count cs) = value? radix cs := by
  have hpad : zeroPadded count cs ≠ [] := by simp [zeroPadded, hcs]
  rw [value?, value?, List.isEmpty_eq_false_iff.mpr hpad, List.isEmpty_eq_false_iff.mpr hcs]
  exact valueFrom?_zeroPadded h0 count cs

/-! ## Lengths -/

/-- So many digits are enough exactly for the numbers below that power of the radix. -/
lemma length_digits_le_iff (h1 : 1 < radix) {n k : Nat} (hk : 0 < k) :
    (digits radix n).length ≤ k ↔ n < radix ^ k :=
  Nat.length_toDigits_le_iff h1 hk

/-- Leading zeros fill digits up to the requested number. -/
@[simp] lemma length_zeroPadded (count : Nat) (cs : List Char) :
    (zeroPadded count cs).length = max count cs.length := by
  rw [zeroPadded, List.length_append, List.length_replicate]
  omega

end RegisterFile.Numeral

import RegisterFile.Json.Reader
import RegisterFile.Json.Writer
import RegisterFile.Proofs.Numeral
import RegisterFile.Proofs.Outcome

set_option autoImplicit false

/-!
# Strings and numbers in JSON text

A quoted string is read back as the text it was written for, whatever characters that holds. The
digits of a number that fits in 64 bits are read back as that number, with exponent zero: no prefix
of its digits exceeds 64 bits, so that every digit is appended.

## Main definitions

* `Json.Closes` - the characters behind a value neither continue a number nor are blanks.

## Main results

* `Json.exists_writeText_eq_cons` - reading a quoted string.
* `Json.readNumber_digits` - reading the digits of a number.
-/

namespace RegisterFile.Json

open Numeral (digits digitValue? valueFrom? zeroPadded)

/-! ## Strings -/

/-- The letter of an escape is read as the character that it stands for. -/
lemma readStringFrom_escape {out rest : List Char} {e c : Char} (he : e ≠ 'u')
    (h : escapedChar? e = some c) :
    readStringFrom .plain out ('\\' :: e :: rest) = readStringFrom .plain (c :: out) rest := by
  simp [readStringFrom, he, h]

/-- Four hexadecimal digits behind `\u` are read as the character with their number, unless that is
half of a surrogate pair. -/
lemma readStringFrom_unit {out rest : List Char} {a b c d : Char} {n : Nat}
    (h : valueFrom? 16 0 [a, b, c, d] = some n) (hn : isSurrogate n = false) :
    readStringFrom .plain out ('\\' :: 'u' :: a :: b :: c :: d :: rest) =
      readStringFrom .plain (Char.ofNat n :: out) rest := by
  simp only [valueFrom?, Option.bind_eq_some_iff] at h
  obtain ⟨va, ha, vb, hb, vc, hc, vd, hd, hval⟩ := h
  obtain rfl : 16 * (16 * (16 * va + vb) + vc) + vd = n := by simpa using hval
  simp [readStringFrom, ha, hb, hc, hd, hn]

/-- A control character has four hexadecimal digits. -/
lemma exists_controlDigits {n : Nat} (hn : n < 0x20) :
    ∃ a b c d, zeroPadded 4 (digits 16 n) = [a, b, c, d] ∧
      valueFrom? 16 0 [a, b, c, d] = some n := by
  have hshort : (digits 16 n).length ≤ 4 :=
    (Numeral.length_digits_le_iff (by decide) (by decide)).mpr (by omega)
  have hlen : (zeroPadded 4 (digits 16 n)).length = 4 := by
    rw [Numeral.length_zeroPadded, Nat.max_eq_left hshort]
  have hval : valueFrom? 16 0 (zeroPadded 4 (digits 16 n)) = some n := by
    rw [Numeral.valueFrom?_zeroPadded (by decide),
      Numeral.valueFrom?_digits (by decide) (by decide)]
  generalize zeroPadded 4 (digits 16 n) = ds at hlen hval ⊢
  match ds, hlen with
  | [a, b, c, d], _ => exact ⟨a, b, c, d, rfl, hval⟩

/-- A character is read back from its form inside a quoted string. -/
lemma readStringFrom_escapeChar (out rest : List Char) (c : Char) :
    readStringFrom .plain out (escapeChar c ++ rest) = readStringFrom .plain (c :: out) rest := by
  have hof {n : Nat} (h : c.toNat = n) : Char.ofNat n = c := by rw [← h, Char.ofNat_toNat]
  unfold escapeChar
  split_ifs with hquote hslash hb ht hn hf hr hcontrol
  · subst hquote
    exact readStringFrom_escape (by decide) (by decide)
  · subst hslash
    exact readStringFrom_escape (by decide) (by decide)
  · rw [← hof hb]
    exact readStringFrom_escape (by decide) (by decide)
  · rw [← hof ht]
    exact readStringFrom_escape (by decide) (by decide)
  · rw [← hof hn]
    exact readStringFrom_escape (by decide) (by decide)
  · rw [← hof hf]
    exact readStringFrom_escape (by decide) (by decide)
  · rw [← hof hr]
    exact readStringFrom_escape (by decide) (by decide)
  · obtain ⟨x, y, z, w, hdigits, hval⟩ := exists_controlDigits hcontrol
    have hsurrogate : isSurrogate c.toNat = false := by simp [isSurrogate]; omega
    rw [hdigits, ← Char.ofNat_toNat c]
    exact readStringFrom_unit hval hsurrogate
  · simp [readStringFrom, hquote, hslash, hcontrol]

/-- A quoted string is read back, character by character, up to its closing quotation mark. -/
lemma readStringFrom_flatMap (out s rest : List Char) :
    readStringFrom .plain out (s.flatMap escapeChar ++ '"' :: rest) =
      .ok (String.ofList (out.reverse ++ s), rest) := by
  induction s generalizing out with
  | nil => simp [readStringFrom]
  | cons c s ih =>
    rw [List.flatMap_cons, List.append_assoc, readStringFrom_escapeChar, ih]
    simp

/-- A quoted string is an opening quotation mark in front of what the reader of strings reads. -/
theorem exists_writeText_eq_cons (s : String) (rest : List Char) :
    ∃ cs, writeText s ++ rest = '"' :: cs ∧ readString cs = .ok (s, rest) := by
  refine ⟨s.toList.flatMap escapeChar ++ '"' :: rest, by simp [writeText], ?_⟩
  rw [readString, readStringFrom_flatMap]
  simp

/-! ## Numbers -/

/-- What stands behind a value in JSON text: nothing, or a character that neither is a blank in
front of another value nor continues a number. -/
def Closes (rest : List Char) : Prop :=
  ∀ c ∈ rest.head?, c = ',' ∨ c = ']' ∨ c = '}' ∨ c = '\n'

/-- No digit is read behind a value. -/
lemma readIntegerDigits_closes {rest : List Char} (h : Closes rest) (m : Nat) (e : Int) :
    readIntegerDigits m e rest = .ok ((m, e), rest) := by
  cases rest with
  | nil => rfl
  | cons c cs =>
    have hc : digitValue? 10 c = none := by
      rcases h c rfl with rfl | rfl | rfl | rfl <;> decide
    simp [readIntegerDigits, hc]

/-- Neither a fraction nor an exponent is read behind a value. -/
lemma readExtension_closes {rest : List Char} (h : Closes rest) (m : Nat) (e : Int) :
    readExtension m e rest = .ok (⟨false, m, e⟩, rest) := by
  cases rest with
  | nil => rfl
  | cons c cs => rcases h c rfl with rfl | rfl | rfl | rfl <;> rfl

/-- Digits in front of what closes a value are appended one by one as long as the number they
continue to stays below the bound of mantissas.

**Proof sketch.** Induction on the digits. A number does not shrink when digits continue it
(`Numeral.le_of_valueFrom?`), so that no prefix exceeds the bound and no digit raises the
exponent. -/
lemma readIntegerDigits_append {rest : List Char} (hrest : Closes rest) {m n : Nat} {e : Int}
    {cs : List Char} (h : valueFrom? 10 m cs = some n) (hn : n < mantissaBound) :
    readIntegerDigits m e (cs ++ rest) = .ok ((n, e), rest) := by
  induction cs generalizing m with
  | nil =>
    obtain rfl := Option.some.inj h
    exact readIntegerDigits_closes hrest m e
  | cons c cs ih =>
    obtain ⟨d, hd, hcs⟩ := Option.bind_eq_some_iff.mp h
    have hle := Numeral.le_of_valueFrom? (by decide) hcs
    have happend : appendDigit? m d = some (10 * m + d) := if_pos (hle.trans_lt hn)
    rw [List.cons_append, readIntegerDigits, hd]
    simp only [happend]
    exact ih hcs

/-- Digits of which the first is no zero are read as what they denote. -/
lemma readMagnitude_cons {rest : List Char} (hrest : Closes rest) {c : Char} {cs : List Char}
    {n : Nat} (hc : c ≠ '0') (h : valueFrom? 10 0 (c :: cs) = some n) (hn : n < mantissaBound) :
    readMagnitude (c :: cs ++ rest) = .ok (.ofNat n, rest) := by
  obtain ⟨d, hd, -⟩ := Option.bind_eq_some_iff.mp h
  have hdigits := readIntegerDigits_append (e := 0) hrest h hn
  rw [List.cons_append] at hdigits ⊢
  unfold readMagnitude
  split
  · contradiction
  · rename_i heq
    exact absurd (List.cons.inj heq).1 hc
  · simp [requireDigit, hd, hdigits, readExtension_closes hrest, Number.ofNat]

/-- **The digits of a number are read as that number**, if it is below the bound of mantissas. -/
theorem readNumber_digits {rest : List Char} (hrest : Closes rest) {n : Nat}
    (hn : n < mantissaBound) :
    readNumber (digits 10 n ++ rest) = .ok (.ofNat n, rest) := by
  rcases Nat.eq_zero_or_pos n with rfl | hpos
  · simp [digits, readNumber, readMagnitude, readExtension_closes hrest, Number.ofNat]
  · have hval : valueFrom? 10 0 (digits 10 n) = some n :=
      Numeral.valueFrom?_digits (by decide) (by decide) n
    obtain ⟨c, cs, hc, hcs⟩ : ∃ c cs, c ≠ '0' ∧ digits 10 n = c :: cs :=
      Numeral.exists_digits_eq_cons (by decide) (by decide) hpos
    rw [hcs] at hval ⊢
    have hminus : c ≠ '-' := by
      rintro rfl
      simp [valueFrom?, digitValue?, Numeral.anyDigitValue?] at hval
    unfold readNumber
    split
    · rename_i heq
      exact absurd (List.cons.inj heq).1 hminus
    · exact readMagnitude_cons hrest hc hval hn

end RegisterFile.Json

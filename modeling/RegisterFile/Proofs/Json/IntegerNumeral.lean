import RegisterFile.Proofs.Json.NumberValue

set_option autoImplicit false

/-!
# Integers in JSON text

An integer is spelled in decimal, with a minus sign in front of a negative one and without leading
zeros. A JSON text may hold this spelling as a number or, between quotation marks, as a text.

As a number it is kept with exponent zero exactly if its digits fit the mantissa. A digit that does
not fit is dropped, and although a smaller digit behind it may be appended again, the exponent has
been raised for good, so that no other integer is taken for the one that is spelled. As a text it is
an integer literal, whose magnitude has a bound of its own.

## Main definitions

* `Json.IntegerNumeral` - the spelling of an integer, with its characters and its value.
* `Json.IntegerNumeral.asNumber`, `Json.IntegerNumeral.asText` - the values that a JSON text holds.
* `Json.KeepsWhole` - all digits are kept, or some are dropped of a number that is too large.

## Main results

* `Json.keepsWhole_foldl_keepDigit` - all digits are kept exactly of a number that fits.
* `Json.IntegerNumeral.readValue_asNumber`, `Json.IntegerNumeral.readValue_asText` - reading the
  spelling as a number and as a text.
* `Json.IntegerNumeral.toInt?_stored`, `Json.IntegerNumeral.parse?_text` - the integers that these
  stand for.
-/

namespace RegisterFile.Json

open IntegerLiteral (Sign SpellsDigits)

/-! ## Numerals -/

/-- The spelling of an integer in decimal. -/
structure IntegerNumeral where
  negative : Bool
  digits : List (Fin 10)
  digits_ne : digits ≠ []
  /-- No digit follows a leading zero. -/
  digits_eq_zero : digits.head? = some 0 → digits = [0]
  deriving Repr

namespace IntegerNumeral

variable (n : IntegerNumeral)

/-- The numeral as a number literal, without fraction and exponent. -/
def literal : NumberLiteral :=
  ⟨n.negative, n.digits, [], none, n.digits_ne, n.digits_eq_zero⟩

/-- The sign of a numeral. -/
def sign : Sign := if n.negative then .minus else .none

/-- The characters of a numeral. -/
def chars : List Char := n.sign.chars ++ digitChars n.digits

/-- The text of a numeral. -/
def text : String := String.ofList n.chars

/-- The integer that a numeral spells. -/
def value : Int := n.sign.apply (decimal n.digits)

/-- What is kept of a numeral that stands in a JSON text as a number. -/
def asNumber : Value := .number n.literal.stored

/-- What is kept of a numeral that stands in a JSON text between quotation marks. -/
def asText : Value := .text n.text

/-- The number literal has the characters of the numeral. -/
lemma chars_literal : n.literal.chars = n.chars := by
  have hmagnitude : n.literal.magnitudeChars = digitChars n.digits := List.append_nil _
  rw [NumberLiteral.chars, hmagnitude, chars, sign, literal]
  cases n.negative <;> rfl

/-- The digits of a numeral stand for the magnitude of its integer. -/
lemma natAbs_value : n.value.natAbs = decimal n.digits := by
  rw [value, sign]
  cases n.negative <;> simp [Sign.apply]

end IntegerNumeral

/-! ## Digits that are kept -/

/-- What is kept of digits that stand for `n`: they fit the mantissa `m` and none is dropped, or
they do not fit and `k` digits are dropped. -/
inductive KeepsWhole (n m k : ℕ) : Prop
  | whole (hk : k = 0) (hm : m = n) (hn : n < mantissaBound)
  | cut (hk : 0 < k) (hn : mantissaBound ≤ n)

/-- **A further digit** is appended to all others, or the digits do not fit from then on. -/
lemma KeepsWhole.keepDigit {n : ℕ} {kept : ℕ × ℕ} (h : KeepsWhole n kept.1 kept.2)
    (d : Fin 10) :
    KeepsWhole (10 * n + d) (keepDigit kept d).1 (keepDigit kept d).2 := by
  cases happend : appendDigit? kept.1 d with
  | some m =>
    rw [keepDigit_of_some happend]
    obtain ⟨rfl, hfits⟩ := appendDigit?_eq_some_iff.mp happend
    cases h with
    | whole hk hm _ => exact .whole hk (by rw [hm]) (hm ▸ hfits)
    | cut hk hn => exact .cut hk (by omega)
  | none =>
    rw [keepDigit_of_none happend]
    have hfull := appendDigit?_eq_none_iff.mp happend
    cases h with
    | whole _ hm _ => exact .cut (Nat.succ_pos _) (hm ▸ hfull)
    | cut _ hn => exact .cut (Nat.succ_pos _) (by omega)

/-- **All digits are kept exactly of a number that fits the mantissa.**

**Proof sketch.** Induction on the digits with one more digit at their end. -/
theorem keepsWhole_foldl_keepDigit (ds : List (Fin 10)) :
    KeepsWhole (decimal ds) (ds.foldl keepDigit (0, 0)).1 (ds.foldl keepDigit (0, 0)).2 := by
  induction ds using List.reverseRec with
  | nil => exact .whole rfl rfl (by decide)
  | append_singleton ds d ih =>
    rw [decimal_append_singleton, List.foldl_append]
    exact ih.keepDigit d

namespace IntegerNumeral

variable (n : IntegerNumeral)

/-! ## As a number -/

/-- A numeral with no more digits than an exponent can count is readable. -/
lemma isReadable_literal (hlength : n.digits.length ≤ 32767) : n.literal.IsReadable := by
  have hdropped := foldl_keepDigit_le n.digits (0, 0)
  rw [Nat.zero_add] at hdropped
  exact hdropped.trans hlength

/-- **A numeral is read as a number** wherever a value may stand. -/
theorem readValue_asNumber (hlength : n.digits.length ≤ 32767) {rest : List Char}
    (hrest : EndsNumber rest) (steps room : ℕ) :
    readValue (steps + 1) room (n.chars ++ rest) = .ok (n.asNumber, rest) := by
  rw [← chars_literal, readValue_literal hrest, if_pos (n.isReadable_literal hlength)]
  rfl

/-- A numeral is kept with exponent zero exactly if no digit is dropped. -/
lemma stored_exponent_eq_zero_iff_kept :
    n.literal.stored.exponent = 0 ↔ (n.digits.foldl keepDigit (0, 0)).2 = 0 := by
  have hkept : n.literal.kept = n.digits.foldl keepDigit (0, 0) := by
    rw [NumberLiteral.kept, NumberLiteral.digits, literal, List.append_nil]
  have hread : n.literal.exponentRead = 0 := rfl
  have hfraction : n.literal.fraction.length = 0 := rfl
  rw [NumberLiteral.stored_exponent_eq_zero_iff, hkept, hread, hfraction]
  omega

/-- **The integer that a numeral stands for as a number**: its own, if its digits fit the
mantissa, and none otherwise. -/
theorem toInt?_stored :
    n.literal.stored.toInt? = if n.value.natAbs < 2 ^ 64 then some n.value else none := by
  have hexponent := n.stored_exponent_eq_zero_iff_kept
  have hmantissa : n.literal.stored.mantissa = (n.digits.foldl keepDigit (0, 0)).1 := by
    rw [NumberLiteral.stored, NumberLiteral.kept, NumberLiteral.digits, literal, List.append_nil]
  rw [natAbs_value, Number.toInt?]
  cases keepsWhole_foldl_keepDigit n.digits with
  | whole hk hm hn =>
    have hbound : decimal n.digits < 2 ^ 64 := hn
    rw [if_pos (hexponent.mpr hk), if_pos hbound, hmantissa, hm, value, sign]
    change some (if n.negative then _ else _) = _
    cases n.negative <;> rfl
  | cut hk hn =>
    have hbound : ¬ decimal n.digits < 2 ^ 64 := not_lt.mpr hn
    rw [if_neg (mt hexponent.mp hk.ne'), if_neg hbound]

/-! ## As a text -/

/-- The characters of decimal digits spell them. -/
lemma spellsDigits_digitChars (ds : List (Fin 10)) :
    SpellsDigits 10 (digitChars ds) (ds.map Fin.val) := by
  induction ds with
  | nil => exact .nil
  | cons d ds ih => exact .digit ⟨d.isLt, .inl rfl⟩ ih

/-- The magnitude of decimal digits is what they stand for, up to the bound of magnitudes. -/
lemma magnitude?_digitChars {ds : List (Fin 10)} (hne : ds ≠ []) :
    IntegerLiteral.magnitude? (digitChars ds) =
      if decimal ds < 2 ^ 127 then some (decimal ds) else none := by
  have hspells := spellsDigits_digitChars ds
  have hradix : IntegerLiteral.splitRadix (digitChars ds) = (10, digitChars ds) :=
    IntegerLiteral.splitRadix_append .decimal hspells
  have hvalue : Numeral.value? 10 ((digitChars ds).filter (· ≠ '_')) = some (decimal ds) :=
    (IntegerLiteral.value?_filter_eq_some_iff (by decide)).mpr
      ⟨_, hspells, by simpa using hne, by rw [decimal, List.map_reverse]⟩
  rw [IntegerLiteral.magnitude?, hradix]
  dsimp only
  rw [hvalue, Option.filter_some]
  simp only [decide_eq_true_eq]
  rfl

/-- Neither a blank nor a sign stands among the digits of a numeral. -/
lemma isInner_of_mem_digitChars {ds : List (Fin 10)} {c : Char} (hc : c ∈ digitChars ds) :
    IntegerLiteral.IsInner c :=
  @IntegerLiteral.isInner_of_mem .decimal _ _ (spellsDigits_digitChars ds) _ hc

/-- **The integer that a numeral stands for as a text**: its own, if its magnitude stays below the
bound of magnitudes, and none otherwise. -/
theorem parse?_text :
    IntegerLiteral.parse? n.text = if n.value.natAbs < 2 ^ 127 then some n.value else none := by
  have htrim : Text.trim n.text.toList = n.sign.chars ++ digitChars n.digits := by
    rw [text, String.toList_ofList, chars]
    refine Text.trim_eq_self fun c hc => ?_
    rcases List.mem_append.mp hc with hc | hc
    · exact Sign.isBlank_of_mem hc
    · exact (isInner_of_mem_digitChars hc).1
  have hinner : ∀ c ∈ digitChars n.digits, IntegerLiteral.IsInner c :=
    fun c hc => isInner_of_mem_digitChars hc
  obtain ⟨hrest, hsign⟩ := IntegerLiteral.splitSign_append n.sign hinner
  rw [IntegerLiteral.parse?_eq, htrim, hrest, magnitude?_digitChars n.digits_ne, natAbs_value]
  by_cases hbound : decimal n.digits < 2 ^ 127
  · rw [if_pos hbound, if_pos hbound]
    exact congrArg some (hsign _)
  · rw [if_neg hbound, if_neg hbound]
    rfl

/-- Nothing in a numeral is escaped. -/
lemma flatMap_escapeChar_chars : n.chars.flatMap escapeChar = n.chars := by
  have hdigit : ∀ d : Fin 10, escapeChar (Nat.digitChar d) = [Nat.digitChar d] := by decide
  have hdigits : ∀ ds, (digitChars ds).flatMap escapeChar = digitChars ds := by
    intro ds
    induction ds with
    | nil => rfl
    | cons d ds ih => exact congrArg₂ (· ++ ·) (hdigit d) ih
  rw [chars, List.flatMap_append, hdigits, sign]
  cases n.negative <;> rfl

/-- **A numeral between quotation marks is read as a text** wherever a value may stand. -/
theorem readValue_asText (rest : List Char) (steps room : ℕ) :
    readValue (steps + 1) room ('"' :: n.chars ++ '"' :: rest) = .ok (n.asText, rest) := by
  have hread : readString (n.chars ++ '"' :: rest) = .ok (n.text, rest) := by
    have hplain := readStringFrom_flatMap [] n.chars rest
    rwa [flatMap_escapeChar_chars] at hplain
  rw [List.cons_append, readValue, hread]
  rfl

end IntegerNumeral

end RegisterFile.Json

import Mathlib.Data.Rat.Defs
import RegisterFile.Proofs.IntegerGrammar
import RegisterFile.Proofs.Json.Bindings

set_option autoImplicit false

/-!
# Number literals in JSON text

A number is spelled by digits with an optional sign, an optional fraction and an optional exponent.
The spelling stands for a rational number. What is read from it is a sign, a mantissa and an
exponent: the digits in front of the point and behind it are appended to the mantissa one after
another as long as it stays below its bound, and those that are not appended are counted, so that
the exponent says how many digits behind the point the mantissa has.

## Main definitions

* `Json.NumberLiteral` - the syntax of a number, with its characters and its value.
* `Json.keepDigit`, `Json.NumberLiteral.kept` - the mantissa, and how many digits are dropped.
* `Json.NumberLiteral.stored` - the number that is kept of a literal.

## Main results

* `Json.NumberLiteral.stored_exponent_mem` - when the exponent that is kept has 16 bits.
* `Json.readNumber_literal` - what is read from a literal.
* `Json.readValue_literal` - the same at any place of a text where a value may stand.
-/

namespace RegisterFile.Json

open IntegerLiteral (Sign)
open Numeral (digitValue?)

/-! ## Syntax -/

/-- The number that decimal digits stand for, most significant first. -/
def decimal (ds : List (Fin 10)) : Nat :=
  Nat.ofDigits 10 (ds.reverse.map Fin.val)

/-- The characters of decimal digits. -/
def digitChars (ds : List (Fin 10)) : List Char :=
  ds.map fun d : Fin 10 => Nat.digitChar d

/-- The exponent of a number literal: a letter, a sign and digits. -/
structure ExponentLiteral where
  /-- Whether the letter is in upper case. -/
  upper : Bool
  sign : Sign
  digits : List (Fin 10)
  digits_ne : digits ≠ []
  deriving DecidableEq, Repr

/-- The syntax of a JSON number. -/
structure NumberLiteral where
  negative : Bool
  /-- The digits in front of the decimal point. -/
  integer : List (Fin 10)
  /-- The digits behind the decimal point; without digits there is no point. -/
  fraction : List (Fin 10)
  exponent : Option ExponentLiteral
  integer_ne : integer ≠ []
  /-- No digit follows a leading zero in front of the point. -/
  integer_eq_zero : integer.head? = some 0 → integer = [0]
  deriving DecidableEq, Repr

/-- The characters of an exponent. -/
def ExponentLiteral.chars (e : ExponentLiteral) : List Char :=
  (if e.upper then 'E' else 'e') :: (e.sign.chars ++ digitChars e.digits)

/-- The power of ten that an exponent asks for. -/
def ExponentLiteral.value (e : ExponentLiteral) : Int :=
  e.sign.apply (decimal e.digits)

namespace NumberLiteral

variable (l : NumberLiteral)

/-- The characters of the fraction with its point, if there is one. -/
def fractionChars : List Char :=
  if l.fraction = [] then [] else '.' :: digitChars l.fraction

/-- The characters of the exponent, if there is one. -/
def exponentChars : List Char :=
  l.exponent.elim [] ExponentLiteral.chars

/-- The characters of a number without its sign. -/
def magnitudeChars : List Char :=
  digitChars l.integer ++ (l.fractionChars ++ l.exponentChars)

/-- The characters of a number. -/
def chars : List Char :=
  (if l.negative then ['-'] else []) ++ l.magnitudeChars

/-- The digits of a number in front of the point and behind it. -/
def digits : List (Fin 10) :=
  l.integer ++ l.fraction

/-- The number that the digits stand for without the point. -/
def coefficient : Nat :=
  decimal l.digits

/-- The power of ten that the exponent asks for. -/
def exponentValue : Int :=
  l.exponent.elim 0 ExponentLiteral.value

/-- What a literal stands for without its sign. -/
def magnitude : ℚ :=
  l.coefficient * 10 ^ (l.exponentValue - l.fraction.length)

/-- **What a literal stands for**: the rational number that it spells. -/
def value : ℚ :=
  if l.negative then -l.magnitude else l.magnitude

end NumberLiteral

/-! ## What is kept -/

/-- A mantissa with a further digit, or unchanged with one more digit that is dropped. -/
def keepDigit (kept : Nat × Nat) (d : Fin 10) : Nat × Nat :=
  match appendDigit? kept.1 d with
  | some m => (m, kept.2)
  | none => (kept.1, kept.2 + 1)

namespace NumberLiteral

variable (l : NumberLiteral)

/-- The mantissa that is kept of the digits, and how many digits are dropped. -/
def kept : Nat × Nat :=
  l.digits.foldl keepDigit (0, 0)

/-- How many digits in front of the point are dropped. -/
def droppedInFront : Nat :=
  (l.integer.foldl keepDigit (0, 0)).2

/-- A literal is readable if no more digits in front of the point are dropped than an exponent can
count. -/
def IsReadable : Prop :=
  l.droppedInFront ≤ 32767

/-- Whether a literal is readable can be decided. -/
instance : Decidable l.IsReadable :=
  inferInstanceAs (Decidable (_ ≤ _))

/-- The exponent of the mantissa that is kept, if the literal has no exponent itself. -/
def keptExponent : Int :=
  (l.kept.2 : Int) - l.fraction.length

end NumberLiteral

/-- The power of ten that is read from an exponent: its digits do not count beyond the greatest
exponent. -/
def ExponentLiteral.read (e : ExponentLiteral) : Int :=
  e.sign.apply (min 32767 (decimal e.digits))

/-- A number without its sign. -/
def Number.unsigned (n : Number) : Number := { n with negative := false }

/-- The number that is kept of a literal. -/
def NumberLiteral.stored (l : NumberLiteral) : Number where
  negative := l.negative
  mantissa := l.kept.1
  exponent := l.exponent.elim l.keptExponent fun e => clampExponent (l.keptExponent + e.read)

/-- What stands behind a number: nothing, or a character that does not continue it. -/
def EndsNumber (rest : List Char) : Prop :=
  ∀ c ∈ rest.head?, digitValue? 10 c = none ∧ c ≠ '.' ∧ c ≠ 'e' ∧ c ≠ 'E'

/-! ## Digits -/

/-- The number that digits stand for is counted from the first one on. -/
lemma decimal_eq_foldl (ds : List (Fin 10)) :
    decimal ds = ds.foldl (fun n d => 10 * n + d.val) 0 := by
  rw [decimal, List.map_reverse, ← IntegerLiteral.foldl_eq_ofDigits, List.foldl_map]

/-- A further digit counts ten times as little as those in front of it. -/
lemma decimal_append_singleton (ds : List (Fin 10)) (d : Fin 10) :
    decimal (ds ++ [d]) = 10 * decimal ds + d.val := by
  rw [decimal_eq_foldl, decimal_eq_foldl, List.foldl_append]
  rfl

/-- The character of a digit is read as its value. -/
lemma digitValue?_digitChar (d : Fin 10) : digitValue? 10 (Nat.digitChar d) = some d.val :=
  Numeral.digitValue?_digitChar (by decide) d.isLt

/-- The character of a digit is no sign. -/
lemma digitChar_notMem (d : Fin 10) : Nat.digitChar d ∉ ['-', '+'] := by
  revert d
  decide

/-- The characters of a digit other than zero are not those of zero. -/
lemma digitChar_eq_zero_iff (d : Fin 10) : Nat.digitChar d = '0' ↔ d = 0 := by
  revert d
  decide

/-- A digit that fits is appended to the mantissa. -/
lemma keepDigit_of_some {kept : Nat × Nat} {d : Fin 10} {m : Nat}
    (h : appendDigit? kept.1 d = some m) : keepDigit kept d = (m, kept.2) := by
  rw [keepDigit, h]

/-- A digit that does not fit is dropped. -/
lemma keepDigit_of_none {kept : Nat × Nat} {d : Fin 10} (h : appendDigit? kept.1 d = none) :
    keepDigit kept d = (kept.1, kept.2 + 1) := by
  rw [keepDigit, h]

/-- Digits that are dropped stay dropped. -/
lemma le_foldl_keepDigit (ds : List (Fin 10)) (kept : Nat × Nat) :
    kept.2 ≤ (ds.foldl keepDigit kept).2 := by
  induction ds generalizing kept with
  | nil => exact le_rfl
  | cons d ds ih =>
    refine le_trans ?_ (ih _)
    cases h : appendDigit? kept.1 d with
    | some m => rw [keepDigit_of_some h]
    | none =>
      rw [keepDigit_of_none h]
      exact Nat.le_succ _

/-- No more digits are dropped than there are. -/
lemma foldl_keepDigit_le (ds : List (Fin 10)) (kept : Nat × Nat) :
    (ds.foldl keepDigit kept).2 ≤ kept.2 + ds.length := by
  induction ds generalizing kept with
  | nil => exact le_rfl
  | cons d ds ih =>
    have hfirst : (keepDigit kept d).2 ≤ kept.2 + 1 := by
      cases h : appendDigit? kept.1 d with
      | some m =>
        rw [keepDigit_of_some h]
        exact Nat.le_succ _
      | none => rw [keepDigit_of_none h]
    rw [List.foldl_cons, List.length_cons]
    exact (ih _).trans (by omega)

/-- An exponent that is held between the bounds lies between them. -/
lemma clampExponent_mem (e : Int) :
    leastExponent ≤ clampExponent e ∧ clampExponent e ≤ greatestExponent := by
  rw [clampExponent, leastExponent, greatestExponent]
  omega

/-- **The exponent that is kept of a literal has 16 bits**, if no more digits are dropped in front
of the point and no more stand behind it than 16 bits can count. -/
theorem NumberLiteral.stored_exponent_mem {l : NumberLiteral} (hl : l.IsReadable)
    (hfraction : l.fraction.length ≤ 32768) :
    leastExponent ≤ l.stored.exponent ∧ l.stored.exponent ≤ greatestExponent := by
  rw [stored]
  cases l.exponent with
  | some e => exact clampExponent_mem _
  | none =>
    have hdropped : l.kept.2 ≤ l.droppedInFront + l.fraction.length := by
      rw [kept, NumberLiteral.digits, List.foldl_append]
      exact foldl_keepDigit_le l.fraction _
    have hreadable : l.droppedInFront ≤ 32767 := hl
    simp only [Option.elim_none, keptExponent, leastExponent, greatestExponent]
    omega

/-! ## Reading the parts of a number -/

section Parts

variable {rest : List Char}

/-- The first of some digits comes in front of the others. -/
lemma digitChars_cons_append (d : Fin 10) (ds : List (Fin 10)) :
    digitChars (d :: ds) ++ rest = Nat.digitChar d :: (digitChars ds ++ rest) := rfl

/-- Digits in front of the point are read as what is kept of them, if no more are dropped than an
exponent can count.

**Proof sketch.** Induction on the digits; the exponent counts those that are dropped so far. -/
lemma readIntegerDigits_digitChars (hrest : ∀ c ∈ rest.head?, digitValue? 10 c = none)
    (ds : List (Fin 10)) (kept : Nat × Nat) (hkept : kept.2 ≤ 32767) :
    readIntegerDigits kept.1 kept.2 (digitChars ds ++ rest) =
      if (ds.foldl keepDigit kept).2 ≤ 32767 then
        .ok (((ds.foldl keepDigit kept).1, ((ds.foldl keepDigit kept).2 : Int)), rest)
      else .error .tooDeep := by
  induction ds generalizing kept with
  | nil =>
    rw [List.foldl_nil, if_pos hkept]
    cases rest with
    | nil => rfl
    | cons c cs => simp [digitChars, readIntegerDigits, hrest c rfl]
  | cons d ds ih =>
    rw [digitChars_cons_append, readIntegerDigits, digitValue?_digitChar, List.foldl_cons]
    dsimp only
    cases happend : appendDigit? kept.1 d with
    | some m =>
      rw [keepDigit_of_some happend]
      exact ih (m, kept.2) hkept
    | none =>
      rw [keepDigit_of_none happend]
      dsimp only
      by_cases hlt : kept.2 + 1 ≤ 32767
      · rw [if_pos (show (kept.2 : Int) < greatestExponent by rw [greatestExponent]; omega)]
        exact ih (kept.1, kept.2 + 1) hlt
      · have hle := le_foldl_keepDigit ds (kept.1, kept.2 + 1)
        rw [if_neg (show ¬ (kept.2 : Int) < greatestExponent by rw [greatestExponent]; omega),
          if_neg (by omega)]

/-- Digits behind the point are read as what is kept of them; the exponent counts the digits behind
the point, those apart that are dropped.

**Proof sketch.** Induction on the digits, of which `places` stand in front. -/
lemma readFractionDigits_digitChars (hrest : ∀ c ∈ rest.head?, digitValue? 10 c = none)
    (ds : List (Fin 10)) (kept : Nat × Nat) (places : Nat) :
    readFractionDigits kept.1 (kept.2 - places) (digitChars ds ++ rest) =
      (((ds.foldl keepDigit kept).1,
        ((ds.foldl keepDigit kept).2 : Int) - (places + ds.length : Nat)), rest) := by
  induction ds generalizing kept places with
  | nil =>
    cases rest with
    | nil => rfl
    | cons c cs => simp [digitChars, readFractionDigits, hrest c rfl]
  | cons d ds ih =>
    rw [digitChars_cons_append, readFractionDigits, digitValue?_digitChar, List.foldl_cons,
      List.length_cons, ← Nat.add_assoc, Nat.add_right_comm]
    dsimp only
    cases happend : appendDigit? kept.1 d with
    | some m =>
      rw [keepDigit_of_some happend, ← ih (m, kept.2) (places + 1)]
      dsimp only
      congr 1
      omega
    | none =>
      rw [keepDigit_of_none happend, ← ih (kept.1, kept.2 + 1) (places + 1)]
      dsimp only
      congr 1
      omega

/-- The digits of an exponent are read as what they stand for, up to the greatest exponent. -/
lemma readExponentDigits_digitChars (hrest : ∀ c ∈ rest.head?, digitValue? 10 c = none)
    (ds : List (Fin 10)) (n : Nat) :
    readExponentDigits ((min 32767 n : Nat) : Int) (digitChars ds ++ rest) =
      (((min 32767 (ds.foldl (fun n d => 10 * n + d.val) n) : Nat) : Int), rest) := by
  induction ds generalizing n with
  | nil =>
    cases rest with
    | nil => rfl
    | cons c cs => simp [digitChars, readExponentDigits, hrest c rfl]
  | cons d ds ih =>
    rw [digitChars_cons_append, readExponentDigits, digitValue?_digitChar, List.foldl_cons, ← ih]
    dsimp only
    congr 1
    rw [greatestExponent]
    omega

/-- A digit is where one is required. -/
lemma requireDigit_digitChars {ds : List (Fin 10)} (hds : ds ≠ []) :
    requireDigit (digitChars ds ++ rest) = .ok () := by
  obtain ⟨d, ds, rfl⟩ := List.exists_cons_of_ne_nil hds
  simp [digitChars_cons_append, requireDigit, digitValue?_digitChar]

/-- What stands behind a number is no digit of it. -/
lemma EndsNumber.digitValue? (h : EndsNumber rest) : ∀ c ∈ rest.head?, digitValue? 10 c = none :=
  fun c hc => (h c hc).1

/-- An exponent is read as the power of ten that is read from it. -/
lemma readExponent_chars (hrest : EndsNumber rest) (e : ExponentLiteral) (mantissa : Nat)
    (exponent : Int) :
    readExponent mantissa exponent (e.sign.chars ++ (digitChars e.digits ++ rest)) =
      .ok (⟨false, mantissa, clampExponent (exponent + e.read)⟩, rest) := by
  have hrequired : requireDigit (digitChars e.digits ++ rest) = .ok () :=
    requireDigit_digitChars e.digits_ne
  have hread := readExponentDigits_digitChars hrest.digitValue? e.digits 0
  rw [← decimal_eq_foldl] at hread
  have hzero : ((min 32767 0 : Nat) : Int) = 0 := rfl
  rw [hzero] at hread
  rw [ExponentLiteral.read]
  cases hsign : e.sign with
  | minus =>
    simp [readExponent, Sign.chars, Sign.apply, hrequired, hread]
  | plus =>
    simp [readExponent, Sign.chars, Sign.apply, hrequired, hread]
  | none =>
    obtain ⟨d, ds, hds⟩ := List.exists_cons_of_ne_nil e.digits_ne
    have hd := digitChar_notMem d
    simp only [List.mem_cons, not_or] at hd
    rw [hds, digitChars_cons_append] at hrequired hread ⊢
    simp [readExponent, Sign.chars, Sign.apply, hd, hrequired, hread]

/-- What is kept of a literal whose digits are read up to its exponent. -/
lemma readExponent?_exponentChars (hrest : EndsNumber rest) (l : NumberLiteral) :
    readExponent? l.kept.1 l.keptExponent (l.exponentChars ++ rest) =
      .ok (l.stored.unsigned, rest) := by
  rw [NumberLiteral.exponentChars, NumberLiteral.stored, Number.unsigned]
  cases l.exponent with
  | none =>
    cases rest with
    | nil => rfl
    | cons c cs =>
      obtain ⟨-, -, he, hE⟩ := hrest c rfl
      simp [readExponent?, he, hE]
  | some e =>
    have hread := readExponent_chars hrest e l.kept.1 l.keptExponent
    cases hupper : e.upper with
    | true => simpa [ExponentLiteral.chars, hupper, readExponent?] using hread
    | false => simpa [ExponentLiteral.chars, hupper, readExponent?] using hread

/-- The exponent, or what stands behind the number, continues no digits. -/
lemma exponentChars_append_head (hrest : EndsNumber rest) (l : NumberLiteral) :
    ∀ c ∈ (l.exponentChars ++ rest).head?, digitValue? 10 c = none ∧ c ≠ '.' := by
  rw [NumberLiteral.exponentChars]
  cases l.exponent with
  | none => exact fun c hc => ⟨(hrest c hc).1, (hrest c hc).2.1⟩
  | some e =>
    rintro c hc
    obtain rfl : (if e.upper then 'E' else 'e') = c := Option.some.inj hc
    split <;> decide

/-- Without a point, what stands behind the digits is an exponent or no part of the number. -/
lemma readExtension_of_head {mantissa : Nat} {exponent : Int} {cs : List Char}
    (h : ∀ c ∈ cs.head?, c ≠ '.') :
    readExtension mantissa exponent cs = readExponent? mantissa exponent cs := by
  cases cs with
  | nil => rfl
  | cons c cs => simp [readExtension, h c rfl]

/-- The fraction and the exponent are read behind the digits in front of the point. -/
lemma readExtension_literal (hrest : EndsNumber rest) (l : NumberLiteral) :
    readExtension (l.integer.foldl keepDigit (0, 0)).1 l.droppedInFront
        (l.fractionChars ++ (l.exponentChars ++ rest)) =
      .ok (l.stored.unsigned, rest) := by
  have hexponent := readExponent?_exponentChars hrest l
  have hhead := exponentChars_append_head hrest l
  rw [NumberLiteral.keptExponent, NumberLiteral.kept, NumberLiteral.digits,
    List.foldl_append] at hexponent
  rw [NumberLiteral.fractionChars, NumberLiteral.droppedInFront]
  split_ifs with hfraction
  · rw [hfraction] at hexponent
    rw [List.nil_append, readExtension_of_head fun c hc => (hhead c hc).2, ← hexponent]
    simp
  · have hdigits := readFractionDigits_digitChars (fun c hc => (hhead c hc).1) l.fraction
      (l.integer.foldl keepDigit (0, 0)) 0
    rw [Nat.cast_zero, sub_zero, zero_add] at hdigits
    simp only [readExtension, List.cons_append, requireDigit_digitChars hfraction, hdigits,
      hexponent, ok_bind]

/-- What stands behind the digits in front of the point is no further digit. -/
lemma fractionChars_append_head (hrest : EndsNumber rest) (l : NumberLiteral) :
    ∀ c ∈ (l.fractionChars ++ (l.exponentChars ++ rest)).head?, digitValue? 10 c = none := by
  rw [NumberLiteral.fractionChars]
  split_ifs
  · exact fun c hc => (exponentChars_append_head hrest l c hc).1
  · rintro c hc
    obtain rfl : '.' = c := Option.some.inj hc
    decide

end Parts

/-! ## Reading a number -/

section Numbers

variable {rest : List Char}

/-- What is read from a literal without its sign.

**Proof sketch.** A leading zero is the only digit in front of the point; other digits are appended
to a mantissa that is zero at first. -/
lemma readMagnitude_literal (hrest : EndsNumber rest) (l : NumberLiteral) :
    readMagnitude (l.magnitudeChars ++ rest) =
      if l.IsReadable then .ok (l.stored.unsigned, rest)
      else .error .tooDeep := by
  have hextension := readExtension_literal hrest l
  rw [NumberLiteral.magnitudeChars, List.append_assoc, List.append_assoc]
  obtain ⟨d, ds, hinteger⟩ := List.exists_cons_of_ne_nil l.integer_ne
  by_cases hzero : d = 0
  · have hsingle : l.integer = [0] := l.integer_eq_zero (by rw [hinteger, hzero]; rfl)
    have hreadable : l.IsReadable := by
      rw [NumberLiteral.IsReadable, NumberLiteral.droppedInFront, hsingle]
      decide
    rw [if_pos hreadable, ← hextension, NumberLiteral.droppedInFront, hsingle]
    rfl
  · have hrequired : requireDigit (digitChars l.integer ++
        (l.fractionChars ++ (l.exponentChars ++ rest))) = .ok () :=
      requireDigit_digitChars l.integer_ne
    have hdigits : readIntegerDigits 0 0 (digitChars l.integer ++
          (l.fractionChars ++ (l.exponentChars ++ rest))) =
        if l.IsReadable then
          .ok (((l.integer.foldl keepDigit (0, 0)).1, (l.droppedInFront : Int)),
            l.fractionChars ++ (l.exponentChars ++ rest))
        else .error .tooDeep :=
      readIntegerDigits_digitChars (fractionChars_append_head hrest l) l.integer (0, 0) (by decide)
    have hread : readMagnitude (digitChars l.integer ++
          (l.fractionChars ++ (l.exponentChars ++ rest))) =
        readIntegerDigits 0 0 (digitChars l.integer ++
            (l.fractionChars ++ (l.exponentChars ++ rest))) >>=
          fun p => readExtension p.1.1 p.1.2 p.2 := by
      have hchar : Nat.digitChar d ≠ '0' := mt (digitChar_eq_zero_iff d).mp hzero
      rw [hinteger, digitChars_cons_append] at hrequired ⊢
      simp [readMagnitude, hchar, hrequired]
    rw [hread, hdigits]
    split_ifs
    · exact hextension
    · rfl

/-- A literal without its sign starts with a digit. -/
lemma exists_magnitudeChars_eq_cons (l : NumberLiteral) :
    ∃ (d : Fin 10) (cs : List Char), l.magnitudeChars = Nat.digitChar d :: cs := by
  obtain ⟨d, ds, hinteger⟩ := List.exists_cons_of_ne_nil l.integer_ne
  exact ⟨d, _, by rw [NumberLiteral.magnitudeChars, hinteger]; rfl⟩

/-- A literal starts with a digit or a minus sign, as no blank and no other value does. -/
lemma exists_chars_eq_cons (l : NumberLiteral) : ∃ c cs, l.chars = c :: cs ∧
    isBlank c = false ∧ c ∉ ['[', '{', '"', 't', 'f', 'n'] := by
  rw [NumberLiteral.chars]
  split_ifs
  · exact ⟨'-', _, rfl, by decide, by decide⟩
  · obtain ⟨d, cs, hcs⟩ := exists_magnitudeChars_eq_cons l
    have hd : ∀ d : Fin 10, isBlank (Nat.digitChar d) = false ∧
        Nat.digitChar d ∉ ['[', '{', '"', 't', 'f', 'n'] := by decide
    exact ⟨Nat.digitChar d, cs, by rw [hcs]; rfl, hd d⟩

/-- A literal does not start with a blank. -/
lemma skipBlanks_chars (l : NumberLiteral) : skipBlanks (l.chars ++ rest) = l.chars ++ rest := by
  obtain ⟨c, cs, hcs, hc, -⟩ := exists_chars_eq_cons l
  rw [hcs, List.cons_append, skipBlanks_cons hc]

/-- What is read from a literal: the number that is kept of it, unless it drops more digits than an
exponent can count. -/
theorem readNumber_literal (hrest : EndsNumber rest) (l : NumberLiteral) :
    readNumber (l.chars ++ rest) =
      if l.IsReadable then .ok (l.stored, rest) else .error .tooDeep := by
  have hmagnitude := readMagnitude_literal hrest l
  rw [NumberLiteral.chars]
  cases hnegative : l.negative with
  | true =>
    simp only [readNumber, List.cons_append, List.nil_append, if_true, hmagnitude]
    split_ifs
    · simp [Number.negate, Number.unsigned, NumberLiteral.stored, hnegative]
    · rfl
  | false =>
    have hread : readNumber (l.magnitudeChars ++ rest) =
        readMagnitude (l.magnitudeChars ++ rest) := by
      obtain ⟨d, cs, hcs⟩ := exists_magnitudeChars_eq_cons l
      have hd := digitChar_notMem d
      simp only [List.mem_cons, not_or] at hd
      simp [hcs, readNumber, hd]
    have hstored : l.stored.unsigned = l.stored := by
      rw [NumberLiteral.stored, hnegative, Number.unsigned]
    rw [if_neg Bool.false_ne_true, List.nil_append, hread, hmagnitude, hstored]

/-- **What is read from a literal where a value may stand.** -/
theorem readValue_literal (hrest : EndsNumber rest) (l : NumberLiteral) (steps room : Nat) :
    readValue (steps + 1) room (l.chars ++ rest) =
      if l.IsReadable then .ok (.number l.stored, rest) else .error .tooDeep := by
  have hread := readNumber_literal hrest l
  obtain ⟨c, cs, hcs, -, hc⟩ := exists_chars_eq_cons l
  simp only [List.mem_cons, not_or] at hc
  rw [hcs, List.cons_append] at hread ⊢
  rw [readValue_number hc.1 hc.2.1 hc.2.2.1 hc.2.2.2.1 hc.2.2.2.2.1 hc.2.2.2.2.2.1, hread]
  split_ifs
  · rfl
  · rfl

end Numbers

end RegisterFile.Json

import RegisterFile.Proofs.Json.NumberLiteral
import RegisterFile.Proofs.Outcome

set_option autoImplicit false

/-!
# What is read as a number is a literal

Every part of a number that is read is spelled by a part of a literal: nothing that is read as a
number lies outside of the syntax.

Characters are divided into the digits that they start with and the others. What a reader of digits
leaves behind is then known from what it reads of digits.

## Main results

* `Json.exists_digitChars` - the digits that characters start with.
* `Json.exists_literal_of_readNumber` - what is read as a number is the spelling of a literal.
-/

namespace RegisterFile.Json

open IntegerLiteral (Sign)
open Numeral (digitValue?)

/-! ## Digits -/

/-- The characters do not start with a digit. -/
def NoDigit (cs : List Char) : Prop :=
  ∀ c ∈ cs.head?, digitValue? 10 c = none

/-- What is read as a digit is the character of the digit. -/
lemma exists_eq_digitChar {c : Char} {n : Nat} (h : digitValue? 10 c = some n) :
    ∃ d : Fin 10, d.val = n ∧ c = Nat.digitChar d := by
  obtain ⟨hn, hc⟩ := (IntegerLiteral.digitValue?_eq_some_iff (by decide)).mp h
  have hupper : ∀ d : Fin 10, (Nat.digitChar d).toUpper = Nat.digitChar d := by decide
  exact ⟨⟨n, hn⟩, rfl, hc.elim id fun hc => hc.trans (hupper ⟨n, hn⟩)⟩

/-- Characters are some digits, and others behind them. -/
theorem exists_digitChars (cs : List Char) :
    ∃ ds rest, cs = digitChars ds ++ rest ∧ NoDigit rest := by
  induction cs with
  | nil => exact ⟨[], [], rfl, nofun⟩
  | cons c cs ih =>
    cases hc : digitValue? 10 c with
    | none =>
      refine ⟨[], c :: cs, rfl, fun c' hc' => ?_⟩
      obtain rfl := Option.some.inj hc'
      exact hc
    | some n =>
      obtain ⟨d, -, rfl⟩ := exists_eq_digitChar hc
      obtain ⟨ds, rest, rfl, hrest⟩ := ih
      exact ⟨d :: ds, rest, rfl, hrest⟩

/-- Where a digit is required, there is one. -/
lemma not_noDigit_of_requireDigit {cs : List Char} (h : requireDigit cs = .ok ()) :
    ¬ NoDigit cs := by
  intro hnone
  cases cs with
  | nil => cases h
  | cons c cs =>
    rw [requireDigit, hnone c rfl] at h
    cases h

/-- Where a digit is required, the characters are some digits and others behind them. -/
lemma exists_digitChars_of_requireDigit {cs : List Char} (h : requireDigit cs = .ok ()) :
    ∃ ds rest, ds ≠ [] ∧ cs = digitChars ds ++ rest ∧ NoDigit rest := by
  obtain ⟨ds, rest, rfl, hrest⟩ := exists_digitChars cs
  refine ⟨ds, rest, ?_, rfl, hrest⟩
  rintro rfl
  exact not_noDigit_of_requireDigit h hrest

/-! ## Parts of a number -/

section Parts

variable {cs rest : List Char} {n : Number} {mantissa : Nat} {exponent : Int}

/-- What is read as an exponent behind its letter is a sign and digits. -/
lemma exists_of_readExponent (h : readExponent mantissa exponent cs = .ok (n, rest)) :
    ∃ (sign : Sign) (ds : List (Fin 10)), ds ≠ [] ∧ cs = sign.chars ++ (digitChars ds ++ rest) := by
  have hread : ∃ (sign : Sign) (cs' : List Char), cs = sign.chars ++ cs' ∧
      requireDigit cs' = .ok () ∧ (readExponentDigits 0 cs').2 = rest := by
    unfold readExponent at h
    split at h
    next heq =>
      obtain ⟨⟨⟩, hrequired, hpure⟩ := bind_eq_ok_iff.mp h
      have hrest := congrArg Prod.snd (Except.ok.inj hpure)
      split at heq
      · obtain ⟨-, rfl⟩ := Prod.mk.inj heq
        exact ⟨.minus, _, rfl, hrequired, hrest⟩
      · obtain ⟨-, rfl⟩ := Prod.mk.inj heq
        exact ⟨.plus, _, rfl, hrequired, hrest⟩
      · obtain ⟨-, rfl⟩ := Prod.mk.inj heq
        exact ⟨.none, _, rfl, hrequired, hrest⟩
  obtain ⟨sign, _, rfl, hrequired, hrest⟩ := hread
  obtain ⟨ds, rest', hds, rfl, hnone⟩ := exists_digitChars_of_requireDigit hrequired
  have hdigits := congrArg Prod.snd (readExponentDigits_digitChars hnone ds 0)
  obtain rfl : rest' = rest := hdigits.symm.trans hrest
  exact ⟨sign, ds, hds, rfl⟩

/-- What is read as an exponent, if there is one. -/
lemma exists_of_readExponent? (h : readExponent? mantissa exponent cs = .ok (n, rest)) :
    ∃ o : Option ExponentLiteral, cs = o.elim [] ExponentLiteral.chars ++ rest := by
  unfold readExponent? at h
  split at h
  · obtain ⟨sign, ds, hds, rfl⟩ := exists_of_readExponent h
    exact ⟨some ⟨false, sign, ds, hds⟩, by simp [ExponentLiteral.chars]⟩
  · obtain ⟨sign, ds, hds, rfl⟩ := exists_of_readExponent h
    exact ⟨some ⟨true, sign, ds, hds⟩, by simp [ExponentLiteral.chars]⟩
  · exact ⟨none, (Prod.mk.inj (Except.ok.inj h)).2⟩

/-- Behind the digits of a fraction the others are left. -/
lemma readFractionDigits_left {ds : List (Fin 10)} (hrest : NoDigit rest) :
    (readFractionDigits mantissa exponent (digitChars ds ++ rest)).2 = rest := by
  have hexponent : (exponent.toNat : Int) - (-exponent).toNat = exponent := by omega
  have hread := readFractionDigits_digitChars hrest ds (mantissa, exponent.toNat) (-exponent).toNat
  rw [hexponent] at hread
  exact congrArg Prod.snd hread

/-- What is read as a fraction and an exponent, if they are there. -/
lemma exists_of_readExtension (h : readExtension mantissa exponent cs = .ok (n, rest)) :
    ∃ (fraction : List (Fin 10)) (o : Option ExponentLiteral),
      cs = (if fraction = [] then [] else '.' :: digitChars fraction) ++
        (o.elim [] ExponentLiteral.chars ++ rest) := by
  unfold readExtension at h
  split at h
  · obtain ⟨⟨⟩, hrequired, hread⟩ := bind_eq_ok_iff.mp h
    obtain ⟨ds, rest', hds, rfl, hnone⟩ := exists_digitChars_of_requireDigit hrequired
    dsimp only at hread
    rw [readFractionDigits_left hnone] at hread
    obtain ⟨o, rfl⟩ := exists_of_readExponent? hread
    exact ⟨ds, o, by rw [if_neg hds]; rfl⟩
  · obtain ⟨o, rfl⟩ := exists_of_readExponent? h
    exact ⟨[], o, rfl⟩

/-- What is read as a number without its sign.

**Proof sketch.** A leading zero is read alone; other digits do not start with a zero. -/
lemma exists_of_readMagnitude (h : readMagnitude cs = .ok (n, rest)) :
    ∃ l : NumberLiteral, l.negative = false ∧ cs = l.magnitudeChars ++ rest := by
  unfold readMagnitude at h
  split at h
  · cases h
  · obtain ⟨fraction, o, rfl⟩ := exists_of_readExtension h
    refine ⟨⟨false, [0], fraction, o, by decide, fun _ => rfl⟩, rfl, ?_⟩
    simp [NumberLiteral.magnitudeChars, NumberLiteral.fractionChars, NumberLiteral.exponentChars,
      digitChars]
  next hzero =>
    obtain ⟨⟨⟩, hrequired, hread⟩ := bind_eq_ok_iff.mp h
    obtain ⟨ds, rest', hds, rfl, hnone⟩ := exists_digitChars_of_requireDigit hrequired
    obtain ⟨⟨⟨m, e⟩, left⟩, hdigits, hextension⟩ := bind_eq_ok_iff.mp hread
    obtain rfl : rest' = left := by
      have hforward := readIntegerDigits_digitChars hnone ds (0, 0) (by decide)
      rw [show readIntegerDigits (0, 0).1 ((0, 0) : Nat × Nat).2 _ = _ from hdigits] at hforward
      split_ifs at hforward
      exact (Prod.mk.inj (Except.ok.inj hforward)).2.symm
    obtain ⟨fraction, o, rfl⟩ := exists_of_readExtension hextension
    refine ⟨⟨false, ds, fraction, o, hds, fun hhead => ?_⟩, rfl, ?_⟩
    · obtain ⟨d, ds, rfl⟩ := List.exists_cons_of_ne_nil hds
      obtain rfl := Option.some.inj hhead
      exact absurd rfl (hzero _)
    · simp [NumberLiteral.magnitudeChars, NumberLiteral.fractionChars, NumberLiteral.exponentChars]

/-- **What is read as a number is the spelling of a literal.** -/
theorem exists_literal_of_readNumber (h : readNumber cs = .ok (n, rest)) :
    ∃ l : NumberLiteral, cs = l.chars ++ rest := by
  unfold readNumber at h
  split at h
  · obtain ⟨⟨n', left⟩, hread, hpure⟩ := bind_eq_ok_iff.mp h
    obtain rfl : left = rest := congrArg Prod.snd (Except.ok.inj hpure)
    obtain ⟨l, -, rfl⟩ := exists_of_readMagnitude hread
    exact ⟨{ l with negative := true }, rfl⟩
  · obtain ⟨l, hl, rfl⟩ := exists_of_readMagnitude h
    exact ⟨l, by rw [NumberLiteral.chars, hl]; rfl⟩

end Parts

end RegisterFile.Json

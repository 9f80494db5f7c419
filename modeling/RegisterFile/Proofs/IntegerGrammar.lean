import Mathlib.Data.List.Forall2
import Mathlib.Data.List.TakeWhile
import Mathlib.Data.Nat.Digits.Defs
import Mathlib.Tactic.IntervalCases
import RegisterFile.Proofs.IntegerLiteral

set_option autoImplicit false

/-!
# The grammar of integer literals

The texts that are integer literals, told by a grammar: at most one sign, an optional radix mark,
and digits of the radix among underscores, with blanks around the whole. The digits are those of a
positional numeral, and the number stays below `2 ^ 127`.

Reading a literal takes blanks, sign, mark and underscores off, one after another, without a look at
what follows. It accepts exactly the grammar all the same: no two parts of a literal can be taken
for each other, since neither a sign nor the letter of a mark is a digit of the radix behind it.

## Main definitions

* `IntegerLiteral.Sign`, `IntegerLiteral.Mark` - the parts in front of the digits.
* `IntegerLiteral.SpellsDigits` - digits among underscores.
* `IntegerLiteral.Denotes` - the grammar: the integer that a text denotes.

## Main results

* `IntegerLiteral.magnitude?_eq_some_iff` - the magnitude of a literal without its sign.
* `IntegerLiteral.parse?_grammar` - reading accepts exactly the grammar.
-/

namespace RegisterFile

/-! ## Blanks around a text -/

namespace Text

/-- Trimming takes nothing but blanks off. -/
lemma exists_eq_append_trim (cs : List Char) :
    ∃ before after, cs = before ++ trim cs ++ after ∧ (∀ c ∈ before, isBlank c = true) ∧
      ∀ c ∈ after, isBlank c = true := by
  have hblank (ds : List Char) : ∀ c ∈ ds.takeWhile isBlank, isBlank c = true :=
    fun c hc => List.mem_takeWhile_imp hc
  refine ⟨cs.takeWhile isBlank, ((trimStart cs).reverse.takeWhile isBlank).reverse, ?_,
    hblank cs, fun c hc => hblank _ c (List.mem_reverse.mp hc)⟩
  have hend : trimStart cs =
      trim cs ++ ((trimStart cs).reverse.takeWhile isBlank).reverse := by
    rw [trim, trimEnd, ← List.reverse_append, List.takeWhile_append_dropWhile,
      List.reverse_reverse]
  rw [List.append_assoc, ← hend, trimStart, List.takeWhile_append_dropWhile]

/-- Trimming takes all blanks off a text that has none inside. -/
lemma trim_append {before cs after : List Char} (hbefore : ∀ c ∈ before, isBlank c = true)
    (hcs : ∀ c ∈ cs, isBlank c = false) (hafter : ∀ c ∈ after, isBlank c = true)
    (hne : cs ≠ []) : trim (before ++ cs ++ after) = cs := by
  have hdrop (ds es : List Char) (hds : ∀ c ∈ ds, isBlank c = false) (hds' : ds ≠ []) :
      (ds ++ es).dropWhile isBlank = ds ++ es := by
    obtain ⟨d, ds, rfl⟩ := List.exists_cons_of_ne_nil hds'
    rw [List.cons_append, List.dropWhile_cons_of_neg (by simp [hds d List.mem_cons_self])]
  have hstart : trimStart (before ++ cs ++ after) = cs ++ after := by
    rw [trimStart, List.append_assoc, List.dropWhile_append_of_pos hbefore, hdrop cs after hcs hne]
  have hreverse : ∀ c ∈ cs.reverse, isBlank c = false := fun c hc => hcs c (List.mem_reverse.mp hc)
  have hend : cs.reverse.dropWhile isBlank = cs.reverse := by
    have h := hdrop cs.reverse [] hreverse (by simpa using hne)
    rwa [List.append_nil] at h
  rw [trim, hstart, trimEnd, List.reverse_append,
    List.dropWhile_append_of_pos fun c hc => hafter c (List.mem_reverse.mp hc), hend,
    List.reverse_reverse]

end Text

namespace IntegerLiteral

/-! ## The grammar -/

/-- The sign in front of a literal. -/
inductive Sign where
  | none
  | plus
  | minus
  deriving DecidableEq, Repr

/-- The characters of a sign. -/
def Sign.chars : Sign → List Char
  | .none => []
  | .plus => ['+']
  | .minus => ['-']

/-- A magnitude with a sign. -/
def Sign.apply : Sign → Nat → Int
  | .none, m => m
  | .plus, m => m
  | .minus, m => -m

/-- The radix mark of a literal; the letter may be in upper case. -/
inductive Mark where
  | decimal
  | hexadecimal (upper : Bool)
  | binary (upper : Bool)
  deriving DecidableEq, Repr

/-- The characters of a radix mark. -/
def Mark.chars : Mark → List Char
  | .decimal => []
  | .hexadecimal upper => ['0', if upper then 'X' else 'x']
  | .binary upper => ['0', if upper then 'B' else 'b']

/-- The radix that a mark stands for. -/
def Mark.radix : Mark → Nat
  | .decimal => 10
  | .hexadecimal _ => 16
  | .binary _ => 2

/-- The character `c` is the digit of the value `d`, a letter in either case. -/
def IsDigit (radix : Nat) (c : Char) (d : Nat) : Prop :=
  d < radix ∧ (c = Nat.digitChar d ∨ c = (Nat.digitChar d).toUpper)

/-- The characters are digits of the given values, most significant first, among underscores. -/
inductive SpellsDigits (radix : Nat) : List Char → List Nat → Prop
  | nil : SpellsDigits radix [] []
  | underscore {cs : List Char} {ds : List Nat} (h : SpellsDigits radix cs ds) :
      SpellsDigits radix ('_' :: cs) ds
  | digit {c : Char} {d : Nat} {cs : List Char} {ds : List Nat} (hd : IsDigit radix c d)
      (h : SpellsDigits radix cs ds) : SpellsDigits radix (c :: cs) (d :: ds)

/-- The characters are a literal without blanks, and it denotes the given integer. -/
inductive SpellsInteger : List Char → Int → Prop
  | intro (sign : Sign) (mark : Mark) {cs : List Char} {ds : List Nat}
      (hdigits : SpellsDigits mark.radix cs ds) (hne : ds ≠ [])
      (hbound : Nat.ofDigits mark.radix ds.reverse ≤ 2 ^ 127 - 1) :
      SpellsInteger (sign.chars ++ mark.chars ++ cs)
        (sign.apply (Nat.ofDigits mark.radix ds.reverse))

/-- The integer that a text denotes: that of the literal between its blanks. -/
def Denotes (s : String) (v : Int) : Prop :=
  ∃ before cs after, s.toList = before ++ cs ++ after ∧ (∀ c ∈ before, Text.isBlank c = true) ∧
    (∀ c ∈ after, Text.isBlank c = true) ∧ SpellsInteger cs v

/-! ## Digits -/

/-- The radix of a mark is at most sixteen. -/
lemma Mark.radix_le (mark : Mark) : mark.radix ≤ 16 := by
  cases mark <;> simp [radix]

/-- A character whose number lies in a range of at most ten is one of those. -/
lemma eq_digitChar_of_anyDigitValue? {c : Char} {d : Nat} (hd : d < 16)
    (h : Numeral.anyDigitValue? c = some d) :
    c = Nat.digitChar d ∨ c = (Nat.digitChar d).toUpper := by
  unfold Numeral.anyDigitValue? at h
  rw [← Char.ofNat_toNat c]
  split_ifs at h with hdecimal hlower hupper
  · have hle : 48 ≤ c.toNat := hdecimal.1
    have hge : c.toNat ≤ 57 := hdecimal.2
    obtain rfl := Option.some.inj h
    generalize c.toNat = n at hle hge
    interval_cases n <;> decide
  · have hle : 97 ≤ c.toNat := hlower.1
    obtain rfl := Option.some.inj h
    have hge : c.toNat ≤ 102 := by
      change c.toNat - 97 + 10 < 16 at hd
      omega
    generalize c.toNat = n at hle hge
    interval_cases n <;> decide
  · have hle : 65 ≤ c.toNat := hupper.1
    obtain rfl := Option.some.inj h
    have hge : c.toNat ≤ 70 := by
      change c.toNat - 65 + 10 < 16 at hd
      omega
    generalize c.toNat = n at hle hge
    interval_cases n <;> decide

/-- A character is read as a digit exactly if it is one. -/
lemma digitValue?_eq_some_iff {radix : Nat} (hr : radix ≤ 16) {c : Char} {d : Nat} :
    Numeral.digitValue? radix c = some d ↔ IsDigit radix c d := by
  rw [Numeral.digitValue?, Option.filter_eq_some_iff, decide_eq_true_iff, IsDigit, and_comm]
  refine and_congr_right fun hd => ⟨eq_digitChar_of_anyDigitValue? (hd.trans_le hr), ?_⟩
  rintro (rfl | rfl)
  · exact Numeral.anyDigitValue?_digitChar (hd.trans_le hr)
  · exact Numeral.anyDigitValue?_toUpper_digitChar (hd.trans_le hr)

/-- Digits among underscores are digits when the underscores are left out. -/
lemma spellsDigits_iff {radix : Nat} (hr : radix ≤ 16) {cs : List Char} {ds : List Nat} :
    SpellsDigits radix cs ds ↔ List.Forall₂ (IsDigit radix) (cs.filter (· ≠ '_')) ds := by
  have hdigit {c : Char} {d : Nat} (hd : IsDigit radix c d) : c ≠ '_' := by
    rintro rfl
    exact nomatch (digitValue?_eq_some_iff hr).mpr hd
  constructor
  · intro h
    induction h with
    | nil => exact .nil
    | underscore _ ih => rwa [List.filter_cons_of_neg (by simp)]
    | digit hd _ ih =>
      rw [List.filter_cons_of_pos (by simpa using hdigit hd)]
      exact .cons hd ih
  · intro h
    induction cs generalizing ds with
    | nil =>
      cases h
      exact .nil
    | cons c cs ih =>
      by_cases hc : c = '_'
      · subst hc
        exact .underscore (ih (by rwa [List.filter_cons_of_neg (by simp)] at h))
      · rw [List.filter_cons_of_pos (by simpa using hc)] at h
        cases h with
        | cons hd hds => exact .digit hd (ih hds)

/-- The number that digits continue, most significant first. -/
lemma valueFrom?_eq_some_iff {radix : Nat} (hr : radix ≤ 16) {start n : Nat} {cs : List Char} :
    Numeral.valueFrom? radix start cs = some n ↔
      ∃ ds, List.Forall₂ (IsDigit radix) cs ds ∧
        ds.foldl (fun m d => radix * m + d) start = n := by
  induction cs generalizing start with
  | nil => simp [Numeral.valueFrom?]
  | cons c cs ih =>
    rw [Numeral.valueFrom?, Option.bind_eq_some_iff]
    constructor
    · rintro ⟨d, hd, hcs⟩
      obtain ⟨ds, hds, hn⟩ := ih.mp hcs
      exact ⟨d :: ds, .cons ((digitValue?_eq_some_iff hr).mp hd) hds, hn⟩
    · rintro ⟨_, hds, hn⟩
      cases hds with
      | cons hd hds => exact ⟨_, (digitValue?_eq_some_iff hr).mpr hd, ih.mpr ⟨_, hds, hn⟩⟩

/-- The number that digits stand for, most significant first. -/
lemma foldl_eq_ofDigits (radix : Nat) (ds : List Nat) :
    ds.foldl (fun m d => radix * m + d) 0 = Nat.ofDigits radix ds.reverse := by
  rw [Nat.ofDigits_eq_foldr, List.foldr_reverse]
  simp only [Nat.cast_id, Nat.add_comm]

/-- Digits among underscores are read as the number they stand for. -/
lemma value?_filter_eq_some_iff {radix : Nat} (hr : radix ≤ 16) {cs : List Char} {n : Nat} :
    Numeral.value? radix (cs.filter (· ≠ '_')) = some n ↔
      ∃ ds, SpellsDigits radix cs ds ∧ ds ≠ [] ∧ Nat.ofDigits radix ds.reverse = n := by
  simp only [spellsDigits_iff hr, ← foldl_eq_ofDigits]
  generalize cs.filter (· ≠ '_') = cs
  unfold Numeral.value?
  split_ifs with hempty
  · obtain rfl := List.isEmpty_iff.mp hempty
    simp
  · rw [valueFrom?_eq_some_iff hr]
    refine exists_congr fun ds => and_congr_right fun hds => ?_
    have hne : ds ≠ [] := by
      rintro rfl
      exact hempty (List.isEmpty_iff.mpr (List.forall₂_nil_right_iff.mp hds))
    exact (and_iff_right hne).symm

/-! ## Characters of a literal -/

/-- The character is no blank and no sign. -/
def IsInner (c : Char) : Prop :=
  Text.isBlank c = false ∧ c ≠ '+' ∧ c ≠ '-'

/-- Whether a character is inner can be decided. -/
instance (c : Char) : Decidable (IsInner c) :=
  inferInstanceAs (Decidable (_ ∧ _ ∧ _))

/-- Digits are no blanks and no signs. -/
lemma IsDigit.isInner {radix : Nat} (hr : radix ≤ 16) {c : Char} {d : Nat}
    (h : IsDigit radix c d) : IsInner c := by
  have hinner : ∀ d < 16, IsInner (Nat.digitChar d) ∧ IsInner (Nat.digitChar d).toUpper := by
    decide
  obtain ⟨hd, rfl | rfl⟩ := h
  · exact (hinner d (hd.trans_le hr)).1
  · exact (hinner d (hd.trans_le hr)).2

/-- The characters among which digits are spelled are digits and underscores. -/
lemma SpellsDigits.eq_underscore_or_isDigit {radix : Nat} {cs : List Char} {ds : List Nat}
    (h : SpellsDigits radix cs ds) {c : Char} (hc : c ∈ cs) : c = '_' ∨ ∃ d, IsDigit radix c d := by
  induction h with
  | nil => exact absurd hc List.not_mem_nil
  | underscore _ ih =>
    rcases List.mem_cons.mp hc with rfl | hc
    · exact .inl rfl
    · exact ih hc
  | digit hd _ ih =>
    rcases List.mem_cons.mp hc with rfl | hc
    · exact .inr ⟨_, hd⟩
    · exact ih hc

/-- Behind the sign of a literal there is neither a blank nor a sign. -/
lemma isInner_of_mem {mark : Mark} {cs : List Char} {ds : List Nat}
    (h : SpellsDigits mark.radix cs ds) {c : Char} (hc : c ∈ mark.chars ++ cs) : IsInner c := by
  have hmark : mark.chars.all (fun c => decide (IsInner c)) = true := by
    rcases mark with _ | upper | upper
    · rfl
    · cases upper <;> rfl
    · cases upper <;> rfl
  rcases List.mem_append.mp hc with hc | hc
  · exact of_decide_eq_true (List.all_eq_true.mp hmark c hc)
  · rcases h.eq_underscore_or_isDigit hc with rfl | ⟨d, hd⟩
    · decide
    · exact hd.isInner mark.radix_le

/-- A sign is no blank. -/
lemma Sign.isBlank_of_mem {sign : Sign} {c : Char} (hc : c ∈ sign.chars) :
    Text.isBlank c = false := by
  have hsign : sign.chars.all (fun c => decide (Text.isBlank c = false)) = true := by
    cases sign <;> rfl
  exact of_decide_eq_true (List.all_eq_true.mp hsign c hc)

/-! ## The parts of a literal -/

/-- What is taken off as a radix mark is one. -/
lemma exists_mark_of_splitRadix (cs : List Char) :
    ∃ mark : Mark, cs = mark.chars ++ (splitRadix cs).2 ∧ (splitRadix cs).1 = mark.radix := by
  unfold splitRadix
  split
  · exact ⟨.hexadecimal false, rfl, rfl⟩
  · exact ⟨.hexadecimal true, rfl, rfl⟩
  · exact ⟨.binary false, rfl, rfl⟩
  · exact ⟨.binary true, rfl, rfl⟩
  · exact ⟨.decimal, rfl, rfl⟩

/-- The letters of radix marks. -/
def markLetters : List Char := ['x', 'X', 'b', 'B']

/-- The letter of a radix mark is no decimal digit. -/
lemma not_spellsDigits_of_letter {l : Char} (h : l ∈ markLetters) {cs : List Char}
    (hmem : l ∈ cs) (ds : List Nat) : ¬ SpellsDigits 10 cs ds := by
  intro hdigits
  have hletters : markLetters.all (fun c =>
      decide (c ≠ '_' ∧ Numeral.digitValue? 10 c = none)) = true := by decide
  obtain ⟨hunderscore, hdigit⟩ := of_decide_eq_true (List.all_eq_true.mp hletters l h)
  rcases hdigits.eq_underscore_or_isDigit hmem with hc | ⟨d, hd⟩
  · exact hunderscore hc
  · rw [(digitValue?_eq_some_iff (by decide)).mpr hd] at hdigit
    exact nomatch hdigit

/-- A radix mark in front of digits is taken off, and no digit is taken for a part of one. -/
lemma splitRadix_append (mark : Mark) {cs : List Char} {ds : List Nat}
    (h : SpellsDigits mark.radix cs ds) : splitRadix (mark.chars ++ cs) = (mark.radix, cs) := by
  rcases mark with _ | upper | upper
  · change splitRadix cs = (10, cs)
    unfold splitRadix
    split
    · exact absurd h (not_spellsDigits_of_letter (l := 'x') (by decide) (by simp) _)
    · exact absurd h (not_spellsDigits_of_letter (l := 'X') (by decide) (by simp) _)
    · exact absurd h (not_spellsDigits_of_letter (l := 'b') (by decide) (by simp) _)
    · exact absurd h (not_spellsDigits_of_letter (l := 'B') (by decide) (by simp) _)
    · rfl
  · cases upper <;> rfl
  · cases upper <;> rfl

/-- **The magnitude of a literal** without its sign is that of the digits behind a radix mark. -/
theorem magnitude?_eq_some_iff {cs : List Char} {m : Nat} :
    magnitude? cs = some m ↔ ∃ (mark : Mark) (body : List Char) (ds : List Nat),
      cs = mark.chars ++ body ∧ SpellsDigits mark.radix body ds ∧ ds ≠ [] ∧
        Nat.ofDigits mark.radix ds.reverse = m ∧ m ≤ 2 ^ 127 - 1 := by
  have hbound : m < magnitudeBound ↔ m ≤ 2 ^ 127 - 1 := Nat.lt_iff_le_pred (by decide)
  rw [magnitude?, Option.filter_eq_some_iff, decide_eq_true_iff, hbound]
  constructor
  · rintro ⟨hvalue, hm⟩
    obtain ⟨mark, hcs, hradix⟩ := exists_mark_of_splitRadix cs
    rw [hradix] at hvalue
    obtain ⟨ds, hds, hne, hofDigits⟩ := (value?_filter_eq_some_iff mark.radix_le).mp hvalue
    exact ⟨mark, _, ds, hcs, hds, hne, hofDigits, hm⟩
  · rintro ⟨mark, body, ds, rfl, hds, hne, hofDigits, hm⟩
    rw [splitRadix_append mark hds]
    exact ⟨(value?_filter_eq_some_iff mark.radix_le).mpr ⟨ds, hds, hne, hofDigits⟩, hm⟩

/-- What is taken off as a sign is one, and it counts for one. -/
lemma exists_sign_of_splitSign (cs : List Char) :
    ∃ sign : Sign, cs = sign.chars ++ (splitSign cs).2 ∧
      ∀ m : Nat, (if (splitSign cs).1 then -(m : Int) else m) = sign.apply m := by
  unfold splitSign
  split
  · exact ⟨.minus, rfl, fun m => rfl⟩
  · exact ⟨.plus, rfl, fun m => rfl⟩
  · exact ⟨.none, rfl, fun m => rfl⟩

/-- A sign in front of other characters is taken off, and none of them is taken for a sign. -/
lemma splitSign_append (sign : Sign) {cs : List Char} (h : ∀ c ∈ cs, IsInner c) :
    (splitSign (sign.chars ++ cs)).2 = cs ∧
      ∀ m : Nat, (if (splitSign (sign.chars ++ cs)).1 then -(m : Int) else m) = sign.apply m := by
  cases sign with
  | none =>
    change (splitSign cs).2 = cs ∧ ∀ m : Nat, (if (splitSign cs).1 then -(m : Int) else m) = m
    unfold splitSign
    split
    · exact absurd rfl (h '-' List.mem_cons_self).2.2
    · exact absurd rfl (h '+' List.mem_cons_self).2.1
    · exact ⟨rfl, fun m => rfl⟩
  | plus => exact ⟨rfl, fun m => rfl⟩
  | minus => exact ⟨rfl, fun m => rfl⟩

/-! ## Reading -/

/-- A literal is read as its magnitude with its sign. -/
lemma parse?_eq (s : String) :
    parse? s = (magnitude? (splitSign (Text.trim s.toList)).2).map fun m : Nat =>
      if (splitSign (Text.trim s.toList)).1 then -(m : Int) else m := by
  unfold parse?
  dsimp only
  cases magnitude? (splitSign (Text.trim s.toList)).2 <;> rfl

/-- What is read as a literal is one, between its blanks. -/
lemma spellsInteger_of_parse? {s : String} {v : Int} (h : parse? s = some v) :
    SpellsInteger (Text.trim s.toList) v := by
  rw [parse?_eq] at h
  obtain ⟨m, hm, hv⟩ := Option.map_eq_some_iff.mp h
  obtain ⟨sign, hcs, hsign⟩ := exists_sign_of_splitSign (Text.trim s.toList)
  obtain ⟨mark, body, ds, hbody, hds, hne, rfl, hbound⟩ := magnitude?_eq_some_iff.mp hm
  rw [hcs, hbody, ← List.append_assoc, ← hv, hsign]
  exact .intro sign mark hds hne hbound

/-- A literal between blanks is read as the integer that it denotes. -/
lemma parse?_of_denotes {s : String} {v : Int} (h : Denotes s v) : parse? s = some v := by
  obtain ⟨before, _, after, hs, hbefore, hafter, ⟨sign, mark, hds, hne, hbound⟩⟩ := h
  rename_i body ds
  have hinner : ∀ c ∈ mark.chars ++ body, IsInner c := fun c hc => isInner_of_mem hds hc
  have hbody : body ≠ [] := by
    rintro rfl
    cases hds
    exact hne rfl
  have htrim : Text.trim s.toList = sign.chars ++ (mark.chars ++ body) := by
    rw [← List.append_assoc, hs]
    refine Text.trim_append hbefore (fun c hc => ?_) hafter (by simp [hbody])
    rw [List.append_assoc] at hc
    rcases List.mem_append.mp hc with hc | hc
    · exact Sign.isBlank_of_mem hc
    · exact (hinner c hc).1
  obtain ⟨hrest, hsign⟩ := splitSign_append sign hinner
  have hmagnitude : magnitude? (mark.chars ++ body) = some (Nat.ofDigits mark.radix ds.reverse) :=
    magnitude?_eq_some_iff.mpr ⟨mark, body, ds, rfl, hds, hne, rfl, hbound⟩
  rw [parse?_eq, htrim, hrest, hmagnitude]
  exact congrArg some (hsign _)

/-- A text is read as an integer exactly if it denotes it. -/
lemma parse?_eq_some_iff {s : String} {v : Int} : parse? s = some v ↔ Denotes s v := by
  refine ⟨fun h => ?_, parse?_of_denotes⟩
  obtain ⟨before, after, hs, hbefore, hafter⟩ := Text.exists_eq_append_trim s.toList
  exact ⟨before, _, after, hs, hbefore, hafter, spellsInteger_of_parse? h⟩

/-- A text is refused exactly if it denotes no integer. -/
lemma parse?_eq_none_iff {s : String} : parse? s = none ↔ ∀ v, ¬ Denotes s v := by
  simp only [Option.eq_none_iff_forall_ne_some, ne_eq, parse?_eq_some_iff]

/-- Behind its first character a literal has neither blanks nor signs. -/
lemma SpellsInteger.isInner_of_mem_tail {cs : List Char} {v : Int} (h : SpellsInteger cs v)
    {c : Char} (hc : c ∈ cs.tail) : IsInner c := by
  obtain ⟨sign, mark, hds, -, -⟩ := h
  refine isInner_of_mem hds ?_
  rw [List.append_assoc] at hc
  cases sign with
  | none => exact List.mem_of_mem_tail hc
  | plus => exact hc
  | minus => exact hc

/-- A sign that is not the first character is refused. -/
lemma parse?_eq_none_of_sign {s : String} {c : Char} (hc : c ∈ (Text.trim s.toList).tail)
    (hsign : c = '+' ∨ c = '-') : parse? s = none := by
  refine Option.eq_none_iff_forall_ne_some.mpr fun v hv => ?_
  obtain ⟨-, hplus, hminus⟩ := (spellsInteger_of_parse? hv).isInner_of_mem_tail hc
  exact hsign.elim hplus hminus

/-- An underscore inside a radix mark is refused: without the mark the letter is no digit. -/
lemma parse?_eq_none_of_underscore {s : String} (sign : Sign) {letter : Char}
    (hletter : letter ∈ markLetters) {cs : List Char}
    (hs : Text.trim s.toList = sign.chars ++ '0' :: '_' :: letter :: cs) : parse? s = none := by
  have hsplit : (splitSign (Text.trim s.toList)).2 = '0' :: '_' :: letter :: cs := by
    rw [hs]
    cases sign <;> rfl
  have hmagnitude : magnitude? ('0' :: '_' :: letter :: cs) = none := by
    refine Option.eq_none_iff_forall_ne_some.mpr fun m hm => ?_
    obtain ⟨mark, body, ds, hbody, hds, -⟩ := magnitude?_eq_some_iff.mp hm
    rcases mark with _ | upper | upper
    · have hmem : letter ∈ Mark.decimal.chars ++ body := hbody ▸ by simp
      exact not_spellsDigits_of_letter hletter hmem ds hds
    · cases upper <;> simp [Mark.chars] at hbody
    · cases upper <;> simp [Mark.chars] at hbody
  rw [parse?_eq, hsplit, hmagnitude]
  rfl

/-- **Reading an integer literal accepts exactly the grammar.** A text is read as an integer exactly
if it denotes it, and is refused exactly if it denotes none; in particular if a sign stands anywhere
but in front of the rest, or an underscore inside a radix mark.

**Proof sketch.** What is taken off as sign, mark and digits is spelled as such
(`spellsInteger_of_parse?`). For the converse each part is shown to be taken off as a whole and with
nothing else: a literal has no blank inside, no sign behind the first character
(`isInner_of_mem`), and no decimal digits that look like a mark (`splitRadix_append`). -/
theorem parse?_grammar (s : String) :
    (∀ v, parse? s = some v ↔ Denotes s v) ∧
    (parse? s = none ↔ ∀ v, ¬ Denotes s v) ∧
    (∀ c ∈ (Text.trim s.toList).tail, c = '+' ∨ c = '-' → parse? s = none) ∧
    ∀ (sign : Sign), ∀ letter ∈ markLetters, ∀ cs,
      Text.trim s.toList = sign.chars ++ '0' :: '_' :: letter :: cs → parse? s = none :=
  ⟨fun _ => parse?_eq_some_iff, parse?_eq_none_iff,
    fun _ hc hsign => parse?_eq_none_of_sign hc hsign,
    fun sign _ hletter _ hs => parse?_eq_none_of_underscore sign hletter hs⟩

/-- A literal among blanks, with an underscore behind its mark, a sign behind the mark, and an
underscore inside it. -/
theorem parse?_grammar_samples :
    Denotes " -0X_fF\u3000" (-255) ∧ parse? "0x_-3" = none ∧ parse? "+0_b1" = none := by
  have hread : parse? " -0X_fF\u3000" = some (-255) := by decide +kernel
  exact ⟨((parse?_grammar _).1 _).mp hread,
    (parse?_grammar "0x_-3").2.2.1 '-' (by decide +kernel) (by decide),
    (parse?_grammar "+0_b1").2.2.2 .plus 'b' (by decide) ['1'] (by decide +kernel)⟩

end IntegerLiteral

end RegisterFile

import RegisterFile.Proofs.DeclaredIntegers
import RegisterFile.Proofs.Json.IntegerNumeral

set_option autoImplicit false

/-!
# The spellings of an integer in a declaration

A declaration may give an integer as a number or as a text. Both spellings of one integer are taken
for it as long as it fits in 64 bits. A larger one is no integer as a number, and is one as a text
until its magnitude gets too large, but it is neither an address nor a value on reset. So the
spelling makes no difference to the declaration that a text holds.

## Main definitions

* `Json.IntegerNumeral.GivenAs` - a document is one of the two spellings of an integer.
* `DeclarationRespelled` - two documents differ in the spelling of integers at most.

## Main results

* `parse_eq_ok_iff` - the declaration that a text holds is the one that its document describes.
* `DeclarationRespelled.declarationOf_iff` - both documents describe the same declaration.
* `integer_spellings_agree` - reading an integer in both spellings, for all integers.
-/

namespace RegisterFile

open Json (Document EndsNumber IntegerNumeral readValue)

/-! ## Both spellings of an integer -/

namespace Json.IntegerNumeral

variable {n : IntegerNumeral} {name : String}

/-- A document is one of the two spellings of an integer. -/
inductive GivenAs (n : IntegerNumeral) : Document → Prop
  | number : n.GivenAs (.number n.literal)
  | text : n.GivenAs (.text n.text)

/-- An integer that is given as a number is read if its digits fit in 64 bits. -/
lemma requiredInteger_asNumber : requiredInteger name n.asNumber =
    if n.value.natAbs < 2 ^ 64 then .ok n.value
    else .error (.invalidInteger name n.asNumber.compact) := by
  have hinteger : integer? n.asNumber = _ := n.toInt?_stored
  rw [requiredInteger, hinteger]
  split_ifs <;> rfl

/-- An integer that is given as a text is read if its magnitude fits in 127 bits. -/
lemma requiredInteger_asText : requiredInteger name n.asText =
    if n.value.natAbs < 2 ^ 127 then .ok n.value
    else .error (.invalidInteger name n.asText.compact) := by
  have hinteger : integer? n.asText = _ := n.parse?_text
  rw [requiredInteger, hinteger]
  split_ifs <;> rfl

/-- **Both spellings are taken for the same 64-bit integers.** -/
lemma GivenAs.integer?_eq_some_iff {doc : Document} (h : n.GivenAs doc) {i : ℕ}
    (hi : i < 2 ^ 64) : integer? doc.value = some (i : ℤ) ↔ n.value = i := by
  have hbounded : ∀ bound : ℕ, 2 ^ 64 ≤ bound →
      ((if n.value.natAbs < bound then some n.value else none) = some (i : ℤ) ↔ n.value = i) := by
    intro bound hbound
    rw [Option.ite_none_right_eq_some, Option.some_inj, and_iff_right_of_imp]
    intro hvalue
    rw [hvalue, Int.natAbs_natCast]
    exact hi.trans_le hbound
  cases h with
  | number =>
    have hinteger : integer? (Document.number n.literal).value = _ := n.toInt?_stored
    rw [hinteger]
    exact hbounded _ le_rfl
  | text =>
    have hinteger : integer? (Document.text n.text).value = _ := n.parse?_text
    rw [hinteger]
    exact hbounded _ (by decide)

end Json.IntegerNumeral

/-- **A place where an integer is given** in one of its spellings declares it, and the integer is a
64-bit word. -/
lemma DeclarationOf.integerAt?_of_givenAs {doc a : Document} {d : Declaration}
    (h : DeclarationOf doc.value d) {place : IntegerPlace} {n : IntegerNumeral}
    (ha : doc.follow? place.path = some a) (hn : n.GivenAs a) :
    ∃ i : ℕ, n.value = i ∧ i < 2 ^ 64 ∧ d.integerAt? place = some i := by
  have hfollow : doc.value.lastFollow? place.path = some a.value := by
    rw [Document.lastFollow?_value, ha]
    rfl
  obtain ⟨i, hdeclared, hi⟩ := h.integerAt?_of_follow hfollow
  have hword := Declaration.integerAt?_lt hdeclared
  exact ⟨i, (hn.integer?_eq_some_iff hword).mp hi, hword, hdeclared⟩

/-! ## Documents that differ in spelling -/

/-- Documents that are the same or give the same integer. -/
inductive SameInteger : Document → Document → Prop
  | same (doc : Document) : SameInteger doc doc
  | respelled {a b : Document} (n : IntegerNumeral) (ha : n.GivenAs a) (hb : n.GivenAs b) :
      SameInteger a b

/-- Documents that give the same integer are taken for the same 64-bit integers. -/
lemma SameInteger.integer?_iff {a b : Document} (h : SameInteger a b) {i : ℕ}
    (hi : i < 2 ^ 64) : integer? a.value = some (i : ℤ) ↔ integer? b.value = some (i : ℤ) := by
  cases h with
  | same => exact Iff.rfl
  | respelled n ha hb => rw [ha.integer?_eq_some_iff hi, hb.integer?_eq_some_iff hi]

/-- Objects that describe the same register, with integers in either spelling. -/
structure RegisterRespelled (a b : Document) : Prop where
  address : Option.Rel SameInteger (a.step? (.key "address")) (b.step? (.key "address"))
  label : a.step? (.key "label") = b.step? (.key "label")
  mode : a.step? (.key "mode") = b.step? (.key "mode")
  initval : Option.Rel SameInteger (a.step? (.key "initval")) (b.step? (.key "initval"))

/-- Objects that describe the same declaration, with integers in either spelling. -/
structure DeclarationRespelled (a b : Document) : Prop where
  moduleName : a.step? (.key "module") = b.step? (.key "module")
  registerWidth :
    Option.Rel SameInteger (a.step? (.key "register_width")) (b.step? (.key "register_width"))
  registers : ∃ xs ys, a.step? (.key "registers") = some (.array xs) ∧
    b.step? (.key "registers") = some (.array ys) ∧ List.Forall₂ RegisterRespelled xs ys

section Respelled

variable {a b : Document} {key : String}

/-- What a key of a value is bound to is what is kept of the document that it is bound to. -/
lemma last?_value (doc : Document) (key : String) :
    doc.value.last? key = (doc.step? (.key key)).map Document.value :=
  doc.lastStep?_value (.key key)

/-- A key that is bound to the same document stands for the same texts. -/
lemma bindsText_iff_of_step?_eq (h : a.step? (.key key) = b.step? (.key key)) (s : String) :
    BindsText a.value key s ↔ BindsText b.value key s := by
  rw [BindsText, BindsText, last?_value, last?_value, h]

/-- A key that is bound to the same integer stands for the same 64-bit integers. -/
lemma bindsInteger_iff_of_rel
    (h : Option.Rel SameInteger (a.step? (.key key)) (b.step? (.key key))) {i : ℕ}
    (hi : i < 2 ^ 64) : BindsInteger a.value key i ↔ BindsInteger b.value key i := by
  rw [BindsInteger, BindsInteger, last?_value, last?_value]
  generalize a.step? (.key key) = x at h
  generalize b.step? (.key key) = y at h
  cases h with
  | none => exact Iff.rfl
  | some hsame => simpa using hsame.integer?_iff hi

/-- A key that is bound to the same integer or to none stands for the same 64-bit integers. -/
lemma givesInteger_iff_of_rel
    (h : Option.Rel SameInteger (a.step? (.key key)) (b.step? (.key key))) (standard : ℤ) {i : ℕ}
    (hi : i < 2 ^ 64) :
    GivesInteger a.value key standard i ↔ GivesInteger b.value key standard i := by
  have hunbound : a.value.last? key = none ↔ b.value.last? key = none := by
    rw [last?_value, last?_value, Option.map_eq_none_iff, Option.map_eq_none_iff]
    generalize a.step? (.key key) = x at h
    generalize b.step? (.key key) = y at h
    cases h with
    | none => exact Iff.rfl
    | some => simp
  rw [GivesInteger, GivesInteger, hunbound, bindsInteger_iff_of_rel h hi]

/-- Objects that differ in spelling describe the same registers. -/
lemma RegisterRespelled.registerOf_iff (h : RegisterRespelled a b) (r : Register) :
    RegisterOf a.value r ↔ RegisterOf b.value r := by
  have haddress := bindsInteger_iff_of_rel h.address r.address.toNat_lt
  have hlabel := bindsText_iff_of_step?_eq h.label r.label
  have hmode := bindsText_iff_of_step?_eq h.mode r.mode.tag
  have hinitval := givesInteger_iff_of_rel h.initval 0 r.initval.toNat_lt
  constructor
  · rintro ⟨h₁, h₂, h₃, h₄⟩
    exact ⟨haddress.mp h₁, hlabel.mp h₂, hmode.mp h₃, hinitval.mp h₄⟩
  · rintro ⟨h₁, h₂, h₃, h₄⟩
    exact ⟨haddress.mpr h₁, hlabel.mpr h₂, hmode.mpr h₃, hinitval.mpr h₄⟩

/-- Arrays whose items differ in spelling describe the same registers.

**Proof sketch.** Induction on the arrays, item by item. -/
lemma forall₂_registerOf_iff {xs ys : List Document} (h : List.Forall₂ RegisterRespelled xs ys)
    (rs : List Register) :
    List.Forall₂ RegisterOf (xs.map Document.value) rs ↔
      List.Forall₂ RegisterOf (ys.map Document.value) rs := by
  induction h generalizing rs with
  | nil => exact Iff.rfl
  | cons hrespelled _ ih =>
    cases rs with
    | nil => simp
    | cons r rs =>
      rw [List.map_cons, List.map_cons, List.forall₂_cons, List.forall₂_cons,
        hrespelled.registerOf_iff, ih]

/-- The registers of a document that binds them to an array are those of the array. -/
lemma exists_registers_iff {doc : Document} {items : List Document}
    (h : doc.step? (.key "registers") = some (.array items)) (rs : List Register) :
    (∃ vs, doc.value.last? "registers" = some (.array vs) ∧ List.Forall₂ RegisterOf vs rs) ↔
      List.Forall₂ RegisterOf (items.map Document.value) rs := by
  have hlast : doc.value.last? "registers" = some (.array (items.map Document.value)) := by
    rw [last?_value, h, Option.map_some, Document.value, Json.itemValues_eq_map]
  rw [hlast]
  simp

/-- **Documents that differ in the spelling of integers describe the same declarations.** -/
theorem DeclarationRespelled.declarationOf_iff (h : DeclarationRespelled a b) (d : Declaration) :
    DeclarationOf a.value d ↔ DeclarationOf b.value d := by
  obtain ⟨xs, ys, hxs, hys, hrespelled⟩ := h.registers
  have hname := bindsText_iff_of_step?_eq h.moduleName d.moduleName
  have hwidth := givesInteger_iff_of_rel h.registerWidth 32
    (d.registerWidth.toNat_lt.trans (by decide : 2 ^ 32 < 2 ^ 64))
  have hregisters := (exists_registers_iff hxs d.registers).trans
    ((forall₂_registerOf_iff hrespelled d.registers).trans
      (exists_registers_iff hys d.registers).symm)
  constructor
  · rintro ⟨h₁, h₂, h₃⟩
    exact ⟨hname.mp h₁, hwidth.mp h₂, hregisters.mp h₃⟩
  · rintro ⟨h₁, h₂, h₃⟩
    exact ⟨hname.mpr h₁, hwidth.mpr h₂, hregisters.mpr h₃⟩

end Respelled

/-! ## The declaration that a text holds -/

/-- An item describes one register only. -/
lemma rightUnique_registerOf : Relator.RightUnique RegisterOf := by
  rintro v ⟨address, label, ⟨tag⟩, initval, hlabel⟩ ⟨address', label', ⟨tag'⟩, initval', hlabel'⟩
    h h'
  obtain rfl := UInt64.toNat_inj.mp (Int.ofNat.inj (h.address.unique h'.address))
  obtain rfl := h.label.unique h'.label
  obtain rfl := h.mode.unique h'.mode
  obtain rfl := UInt64.toNat_inj.mp (Int.ofNat.inj (h.initval.unique h'.initval))
  rfl

/-- A value describes one declaration only. -/
lemma DeclarationOf.unique {v : Json.Value} {d d' : Declaration} (h : DeclarationOf v d)
    (h' : DeclarationOf v d') : d = d' := by
  obtain ⟨moduleName, registerWidth, registers⟩ := d
  obtain ⟨moduleName', registerWidth', registers'⟩ := d'
  obtain rfl := h.moduleName.unique h'.moduleName
  obtain rfl := UInt32.toNat_inj.mp (Int.ofNat.inj (h.registerWidth.unique h'.registerWidth))
  obtain ⟨items, hitems, hregisters⟩ := h.registers
  obtain ⟨items', hitems', hregisters'⟩ := h'.registers
  obtain rfl := Json.Value.array.inj (Option.some.inj (hitems.symm.trans hitems'))
  obtain rfl := rightUnique_registerOf.forall₂ hregisters hregisters'
  rfl

/-- **The declaration that a text holds** is the one that its document describes. -/
theorem parse_eq_ok_iff {text : String} (hread : ∃ v, Json.parse text = .ok v) {doc : Document}
    (hdoc : doc.IsSpelledBy text) (d : Declaration) :
    Declaration.parse text = .ok d ↔ DeclarationOf doc.value d := by
  refine ⟨declarationOf_of_parse hdoc, fun h => ?_⟩
  obtain ⟨v, hv⟩ := hread
  obtain ⟨w, hw, -, rfl⟩ := Json.exists_spells_of_parse hv
  obtain rfl := hdoc.eq_value hw
  have hparse : Declaration.parse text = Declaration.ofJson doc.value.merged := by
    rw [Declaration.parse, hv]
  obtain ⟨hexists, hdescribes, -⟩ := (Declaration.ofJson_decided doc.value).iff
    DeclarationCondition.place_injective DeclarationCondition.Reports.unique DeclarationOf.holds
  obtain ⟨d', hd'⟩ := hexists.mpr h.holds
  rw [hparse, hd', (hdescribes d' hd').unique h]

/-! ## Reading both spellings -/

/-- **The spellings of an integer agree.** A numeral is read wherever a value may stand, as a number
if an exponent can count its digits and as a text in any case. As a number it is taken for its
integer if the magnitude of this fits in 64 bits, as a text if it fits in 127 bits, and it is no
integer otherwise. Where a declaration that is read from a text gives it in either spelling, it is a
64-bit word and is declared as such; and texts whose documents differ in the spelling of integers
hold the same declaration or hold none.

**Proof sketch.** A numeral is kept as a number with exponent zero exactly if all of its digits are
kept (`Json.keepsWhole_foldl_keepDigit`), and every 64-bit integer passes both bounds
(`Json.IntegerNumeral.GivenAs.integer?_eq_some_iff`). -/
theorem integer_spellings_agree (n : IntegerNumeral) (hlength : n.digits.length ≤ 32767) :
    (∀ rest steps room,
      (EndsNumber rest → readValue (steps + 1) room (n.chars ++ rest) = .ok (n.asNumber, rest)) ∧
      readValue (steps + 1) room ('"' :: n.chars ++ '"' :: rest) = .ok (n.asText, rest)) ∧
    (∀ name, requiredInteger name n.asNumber =
      if n.value.natAbs < 2 ^ 64 then .ok n.value
      else .error (.invalidInteger name n.asNumber.compact)) ∧
    (∀ name, requiredInteger name n.asText =
      if n.value.natAbs < 2 ^ 127 then .ok n.value
      else .error (.invalidInteger name n.asText.compact)) ∧
    (∀ text doc place a d, Document.IsSpelledBy doc text →
      doc.follow? (IntegerPlace.path place) = some a → n.GivenAs a →
      Declaration.parse text = .ok d →
        ∃ i : ℕ, n.value = i ∧ i < 2 ^ 64 ∧ d.integerAt? place = some i) ∧
    ∀ text text' doc doc', Document.IsSpelledBy doc text → Document.IsSpelledBy doc' text' →
      (∃ v, Json.parse text = .ok v) → (∃ v, Json.parse text' = .ok v) →
      DeclarationRespelled doc doc' →
        ∀ d, Declaration.parse text = .ok d ↔ Declaration.parse text' = .ok d := by
  refine ⟨fun rest steps room => ⟨fun hrest => n.readValue_asNumber hlength hrest steps room,
      n.readValue_asText rest steps room⟩,
    fun name => n.requiredInteger_asNumber, fun name => n.requiredInteger_asText,
    fun text doc place a d hdoc ha hn hd => ?_,
    fun text text' doc doc' hdoc hdoc' hread hread' hrespelled d => ?_⟩
  · exact (declarationOf_of_parse hdoc hd).integerAt?_of_givenAs ha hn
  · rw [parse_eq_ok_iff hread hdoc, parse_eq_ok_iff hread' hdoc', hrespelled.declarationOf_iff]

/-- The least integer that does not fit in 64 bits is none as a number and is one as a text. -/
theorem integer_spellings_agree_least :
    let n : IntegerNumeral := ⟨false, [1, 8, 4, 4, 6, 7, 4, 4, 0, 7, 3, 7, 0, 9, 5, 5, 1, 6, 1, 6],
      by decide, by decide⟩
    n.digits.length ≤ 32767 ∧ n.text = "18446744073709551616" ∧
      requiredInteger "address" n.asNumber =
        .error (.invalidInteger "address" n.asNumber.compact) ∧
      requiredInteger "address" n.asText = .ok 18446744073709551616 := by
  intro n
  have hvalue : n.value = 18446744073709551616 := by decide
  obtain ⟨-, hnumber, htext, -⟩ := integer_spellings_agree n (by decide)
  refine ⟨by decide, by decide, ?_, ?_⟩
  · rw [hnumber, hvalue]
    rfl
  · rw [htext, hvalue]
    rfl

end RegisterFile

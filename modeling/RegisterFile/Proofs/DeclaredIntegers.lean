import RegisterFile.Proofs.DeclarationOutcome
import RegisterFile.Proofs.Json.Documents
import RegisterFile.Proofs.Json.NumberValue

set_option autoImplicit false

/-!
# Integers that a declaration gives as numbers

The width of the registers and each register's address and value on reset may be given as JSON
numbers. A number is taken for an integer if the exponent of what is kept of it is zero. The integer
is the one that the number stands for exactly if nothing of the number is lost: its digits, last
zeros apart, fit in 64 bits, and its exponent can be read. Otherwise another integer is declared, or
the declaration is refused.

## Main definitions

* `IntegerPlace` - where a declaration gives an integer, with the path to it in the text.
* `Declaration.integerAt?` - the integer that is declared at a place.

## Main results

* `DeclarationOf.integerAt?_of_follow` - what is declared at a place.
* `declared_eq_value_iff` - when the integer that is declared is the one that is spelled.
-/

namespace RegisterFile

open Json (Document NumberLiteral)

/-! ## Places -/

/-- A place where a declaration gives an integer. -/
inductive IntegerPlace where
  /-- The width of the registers. -/
  | width
  /-- The address of the register at an index. -/
  | address (index : Nat)
  /-- The value on reset of the register at an index. -/
  | initval (index : Nat)
  deriving DecidableEq, Repr

/-- The key that a place is named by. -/
def IntegerPlace.name : IntegerPlace → String
  | .width => "register_width"
  | .address _ => "address"
  | .initval _ => "initval"

/-- The path to a place in the text of a declaration. -/
def IntegerPlace.path (place : IntegerPlace) : List Json.Step :=
  match place with
  | .width => [.key place.name]
  | .address index => [.key "registers", .item index, .key place.name]
  | .initval index => [.key "registers", .item index, .key place.name]

/-- The integer that is declared at a place. -/
def Declaration.integerAt? (d : Declaration) : IntegerPlace → Option Nat
  | .width => some d.registerWidth.toNat
  | .address index => d.registers[index]?.map fun r => r.address.toNat
  | .initval index => d.registers[index]?.map fun r => r.initval.toNat

/-! ## What is declared -/

section Declared

variable {v a : Json.Value} {d : Declaration}

/-- A key that is bound to a value last stands for the integer that the value stands for. -/
lemma GivesInteger.integer?_of_last {key : String} {standard i : Int}
    (h : GivesInteger v key standard i) (ha : v.last? key = some a) : integer? a = some i := by
  rcases h with ⟨hnone, -⟩ | ⟨b, hb, hi⟩
  · rw [hnone] at ha
    cases ha
  · obtain rfl := Option.some.inj (hb.symm.trans ha)
    exact hi

/-- An item of the array that binds a key describes the register at the same index. -/
lemma DeclarationOf.exists_register (h : DeclarationOf v d) {index : Nat} {key : String}
    (ha : v.lastFollow? [.key "registers", .item index, .key key] = some a) :
    ∃ b r, d.registers[index]? = some r ∧ RegisterOf b r ∧ b.last? key = some a := by
  obtain ⟨items, hitems, hall⟩ := h.registers
  simp only [Json.Value.lastFollow?, List.foldlM_cons, List.foldlM_nil, Json.Value.lastStep?,
    hitems, Option.bind_eq_bind, Option.bind_some, Option.pure_def, Option.bind_fun_some] at ha
  obtain ⟨b, hb, hlast⟩ := Option.bind_eq_some_iff.mp ha
  obtain ⟨hindex, rfl⟩ := List.getElem?_eq_some_iff.mp hb
  have hlength : index < d.registers.length := hall.length_eq ▸ hindex
  exact ⟨_, _, List.getElem?_eq_getElem hlength, List.Forall₂.get hall hindex hlength, hlast⟩

/-- **What is declared at a place** is the integer that the value there stands for. -/
theorem DeclarationOf.integerAt?_of_follow (h : DeclarationOf v d) {place : IntegerPlace}
    (ha : v.lastFollow? place.path = some a) :
    ∃ i : Nat, d.integerAt? place = some i ∧ integer? a = some (i : Int) := by
  cases place with
  | width =>
    have hlast : v.last? "register_width" = some a := by
      simpa [IntegerPlace.path, IntegerPlace.name, Json.Value.lastFollow?,
        Json.Value.lastStep?] using ha
    exact ⟨_, rfl, h.registerWidth.integer?_of_last hlast⟩
  | address index =>
    obtain ⟨b, r, hr, hregister, hlast⟩ := h.exists_register ha
    have hgives : GivesInteger b "address" 0 r.address.toNat := .inr hregister.address
    exact ⟨_, by rw [Declaration.integerAt?, hr]; rfl, hgives.integer?_of_last hlast⟩
  | initval index =>
    obtain ⟨b, r, hr, hregister, hlast⟩ := h.exists_register ha
    exact ⟨_, by rw [Declaration.integerAt?, hr]; rfl, hregister.initval.integer?_of_last hlast⟩

/-- Every integer that is declared fits in 64 bits. -/
lemma Declaration.integerAt?_lt {place : IntegerPlace} {i : Nat}
    (h : d.integerAt? place = some i) : i < 2 ^ 64 := by
  cases place with
  | width =>
    obtain rfl := Option.some.inj h
    exact d.registerWidth.toNat_lt.trans (by decide)
  | address index =>
    obtain ⟨r, -, rfl⟩ := Option.map_eq_some_iff.mp h
    exact r.address.toNat_lt
  | initval index =>
    obtain ⟨r, -, rfl⟩ := Option.map_eq_some_iff.mp h
    exact r.initval.toNat_lt

end Declared

/-! ## What is spelled -/

/-- A declaration is read from the value of a text. -/
lemma exists_json_of_parse {text : String} {d : Declaration}
    (h : Declaration.parse text = .ok d) :
    ∃ v, Json.parse text = .ok v ∧ Declaration.ofJson v = .ok d := by
  rw [Declaration.parse] at h
  cases hv : Json.parse text with
  | ok v =>
    rw [hv] at h
    exact ⟨v, rfl, h⟩
  | error cause =>
    rw [hv] at h
    cases h

/-- The declaration that is read from a text is the one that its document describes. -/
lemma declarationOf_of_parse {text : String} {doc : Document} {d : Declaration}
    (hdoc : doc.IsSpelledBy text) (h : Declaration.parse text = .ok d) :
    DeclarationOf doc.value d := by
  obtain ⟨v, hv, hd⟩ := exists_json_of_parse h
  obtain ⟨w, hw, -, rfl⟩ := Json.exists_spells_of_parse hv
  obtain rfl := hdoc.eq_value hw
  obtain ⟨-, hdescribes, -⟩ := (Declaration.ofJson_decided doc.value).iff
    DeclarationCondition.place_injective DeclarationCondition.Reports.unique DeclarationOf.holds
  exact hdescribes d hd

/-- A number is accepted as an integer exactly if it is kept with exponent zero. -/
lemma requiredInteger_number_iff {name : String} {n : Json.Number} {i : Int} :
    requiredInteger name (.number n) = .ok i ↔ n.toInt? = some i := by
  rw [requiredInteger, integer?]
  cases n.toInt? with
  | some j => simp
  | none => simp

/-- **When the integer that is declared is the one that is spelled**, for every text that is read.
The text spells a document; wherever the document gives an integer as a number literal, the number
that is read is what is kept of the literal. If it is taken for an integer, this integer is what the
literal stands for exactly if nothing of the literal is lost, and so it is in a declaration that is
read from the text.

**Proof sketch.** What is read from the text is what is kept of the document that it spells
(`Json.Document.IsSpelledBy.follow?_of_parse`), and the declaration is the one that this value
describes. A literal that is kept with exponent zero is kept exactly if it fits
(`Json.NumberLiteral.toInt?_stored_eq_value_iff`). -/
theorem declared_eq_value_iff {text : String} {v : Json.Value} (hv : Json.parse text = .ok v) :
    (∃ doc : Document, doc.IsSpelledBy text) ∧
    ∀ (doc : Document) (place : IntegerPlace) (l : NumberLiteral), doc.IsSpelledBy text →
      doc.follow? place.path = some (.number l) →
      v.follow? place.path = some (.number l.stored) ∧
      (∀ i, requiredInteger place.name (.number l.stored) = .ok i →
        ((i : ℚ) = l.value ↔ l.Fits)) ∧
      ∀ d, Declaration.parse text = .ok d →
        ∃ i : Nat, d.integerAt? place = some i ∧
          requiredInteger place.name (.number l.stored) = .ok (i : Int) ∧
          ((i : ℚ) = l.value ↔ l.Fits) := by
  refine ⟨Json.exists_isSpelledBy_of_parse hv, fun doc place l hdoc hl => ⟨?_, fun i hi => ?_,
    fun d hd => ?_⟩⟩
  · rw [hdoc.follow?_of_parse hv, hl]
    rfl
  · exact Json.NumberLiteral.toInt?_stored_eq_value_iff (requiredInteger_number_iff.mp hi)
  · have hn : doc.value.lastFollow? place.path = some (.number l.stored) := by
      rw [Json.Document.lastFollow?_value, hl]
      rfl
    obtain ⟨i, hdeclared, hi⟩ := (declarationOf_of_parse hdoc hd).integerAt?_of_follow hn
    refine ⟨i, hdeclared, requiredInteger_number_iff.mpr hi, ?_⟩
    have hvalue := Json.NumberLiteral.toInt?_stored_eq_value_iff hi
    rwa [Int.cast_natCast] at hvalue

/-! ## Declarations with a given address -/

section Addressing

variable (l : NumberLiteral)

/-- The declaration of one register at a given address, as JSON. -/
def addressingDocument : Document :=
  .object [("module", .text "m"), ("registers", .array [
    .object [("address", .number l), ("label", .text "a"), ("mode", .text "ctrl")]])]

/-- What stands in front of the address in the text of the declaration. -/
def addressingFront : List Char :=
  ['{', '"', 'm', 'o', 'd', 'u', 'l', 'e', '"', ':', '"', 'm', '"', ',', '"', 'r', 'e', 'g', 'i',
    's', 't', 'e', 'r', 's', '"', ':', '[', '{', '"', 'a', 'd', 'd', 'r', 'e', 's', 's', '"', ':']

/-- What stands behind the address. -/
def addressingBack : List Char :=
  [',', '"', 'l', 'a', 'b', 'e', 'l', '"', ':', '"', 'a', '"', ',', '"', 'm', 'o', 'd', 'e', '"',
    ':', '"', 'c', 't', 'r', 'l', '"', '}', ']', '}']

/-- The text of the declaration of one register at a given address. -/
def addressingText : String :=
  String.ofList (addressingFront ++ (l.chars ++ addressingBack))

/-- The members of the register are spelled from its address on. -/
lemma spells_address : Json.SpellsDocumentBindings
    ('"' :: 'a' :: 'd' :: 'd' :: 'r' :: 'e' :: 's' :: 's' :: '"' :: ':' ::
      (l.chars ++ addressingBack))
    [("address", .number l), ("label", .text "a"), ("mode", .text "ctrl")] [']', '}'] := by
  have hends : Json.EndsNumber addressingBack := by
    rintro c hc
    obtain rfl : ',' = c := Option.some.inj hc
    decide
  have hcolon : Json.readColon (':' :: (l.chars ++ addressingBack)) =
      .ok (l.chars ++ addressingBack) :=
    Json.readColon_colon .compact (Json.skipBlanks_chars l)
  have hnumber : Json.SpellsDocument (l.chars ++ addressingBack) (.number l) addressingBack :=
    .number l hends
  exact .next rfl hcolon hnumber rfl (.next rfl rfl (.leaf (by decide) (by decide) nofun rfl) rfl
    (.last rfl rfl (.leaf (by decide) (by decide) nofun rfl) rfl))

/-- The text spells the document, whatever the literal is. -/
lemma addressingDocument_isSpelledBy :
    (addressingDocument l).IsSpelledBy (addressingText l) := by
  have hquote : some '"' ≠ some '}' := by decide
  have hbrace : some '{' ≠ some ']' := by decide
  refine ⟨[], ?_, rfl⟩
  rw [addressingText, String.toList_ofList]
  exact .object hquote (.next rfl rfl (.leaf (by decide) (by decide) nofun rfl) rfl
    (.last rfl rfl (.array hbrace (.last (.object hquote (spells_address l)) rfl)) rfl))

end Addressing

/-- An address that is spelled with a fraction and an exponent is declared as it is spelled. -/
theorem declared_eq_value_fraction :
    let l : NumberLiteral :=
      ⟨false, [0], [5], some ⟨false, .none, [1], by decide⟩, by decide, by decide⟩
    l.chars = "0.5e1".toList ∧ ∃ d, Declaration.parse (addressingText l) = .ok d ∧
      d.integerAt? (.address 0) = some 5 ∧ ((5 : Nat) : ℚ) = l.value := by
  intro l
  have hfits : l.Fits := ⟨⟨5, 0, rfl, by decide⟩, .inr (by decide)⟩
  have hparse : Declaration.parse (addressingText l) =
      .ok ⟨"m", 32, [⟨5, "a", ⟨"ctrl"⟩, 0, by decide⟩]⟩ := by decide +kernel
  obtain ⟨v, hv, -⟩ := exists_json_of_parse hparse
  obtain ⟨-, -, hdeclared⟩ := (declared_eq_value_iff hv).2 (addressingDocument l) (.address 0) l
    (addressingDocument_isSpelledBy l) rfl
  obtain ⟨i, hi, -, hvalue⟩ := hdeclared _ hparse
  obtain rfl : 5 = i := Option.some.inj hi
  exact ⟨by decide, _, hparse, rfl, hvalue.mpr hfits⟩

/-- A fraction behind nineteen digits is dropped, and another address is declared than is
spelled. -/
theorem declared_ne_value_dropped :
    let l : NumberLiteral := ⟨false, [1, 8, 4, 4, 6, 7, 4, 4, 0, 7, 3, 7, 0, 9, 5, 5, 1, 6, 2], [5],
      none, by decide, by decide⟩
    l.chars = "1844674407370955162.5".toList ∧
      (addressingDocument l).IsSpelledBy (addressingText l) ∧
      (addressingDocument l).follow? (IntegerPlace.address 0).path = some (.number l) ∧
      ∃ d, Declaration.parse (addressingText l) = .ok d ∧
        d.integerAt? (.address 0) = some 1844674407370955162 ∧
        ((1844674407370955162 : Nat) : ℚ) ≠ l.value := by
  intro l
  have hparse : Declaration.parse (addressingText l) =
      .ok ⟨"m", 32, [⟨1844674407370955162, "a", ⟨"ctrl"⟩, 0, by decide⟩]⟩ := by decide +kernel
  have hvalue : l.value = 18446744073709551625 * 10 ^ (-1 : Int) := by
    have hcoefficient : l.coefficient = 18446744073709551625 := by decide
    rw [NumberLiteral.value, if_neg (by decide), NumberLiteral.magnitude, hcoefficient]
    rfl
  refine ⟨by decide, addressingDocument_isSpelledBy l, rfl, _, hparse, rfl, ?_⟩
  rw [hvalue]
  norm_num

end RegisterFile

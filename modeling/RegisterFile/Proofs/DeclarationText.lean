import RegisterFile.Declaration
import RegisterFile.Proofs.IntegerLiteral
import RegisterFile.Proofs.Json.RoundTrip
import RegisterFile.Proofs.Outcome

set_option autoImplicit false

/-!
# Declarations as JSON text

A declaration that is written as JSON is read back as the same declaration, from its compact text
and from its indented text, whatever characters its names hold. Its addresses are written as
numbers and its values on reset as hexadecimal literals, and both keep all 64 bits.

## Main results

* `Register.ofMembers_toJson`, `Declaration.ofJson_toJson` - the JSON value is read back.
* `Declaration.faithful_toJson` - the JSON value survives its text.
* `Declaration.parse_toJson` - so does the declaration.
-/

namespace RegisterFile

open Json (Faithful)

/-! ## Members -/

section Members

variable {name : String} {members : Json.Members}

/-- A member that is bound is found. -/
lemma requiredMember_of_member? {v : Json.Value} (h : Json.member? name members = some v)
    (part : DeclarationPart) : requiredMember part name members = .ok v := by
  rw [requiredMember, h]

/-- A text that is bound is found. -/
lemma requiredText_of_member? {s : String} (h : Json.member? name members = some (.text s))
    (part : DeclarationPart) : requiredText part name members = .ok s := by
  rw [requiredText, requiredMember_of_member? h part, ok_bind]
  rfl

/-- An integer that is bound is preferred to the standard value. -/
lemma integerOr_of_member? {v : Json.Value} (h : Json.member? name members = some v)
    (standard : Int) : integerOr standard name members = requiredInteger name v := by
  rw [integerOr, h]

end Members

/-! ## Words as integers -/

/-- The integer of a 64-bit word is read as that word. -/
@[simp] lemma wordOfInt_toNat (w : UInt64) (label : String) (field : RegisterField) :
    wordOfInt w.toNat label field = .ok w := by
  have hlt : w.toNat < UInt64.size := w.toNat_lt
  have hnonneg : ¬ (w.toNat : Int) < 0 := by omega
  rw [wordOfInt, if_neg hnonneg, if_pos (by exact_mod_cast hlt), Int.toNat_natCast,
    UInt64.ofNat_toNat]

/-- The integer of a 32-bit word is read as that width. -/
lemma widthOfInt_toNat (w : UInt32) : widthOfInt w.toNat = .ok w := by
  have hlt : w.toNat < UInt32.size := w.toNat_lt
  rw [widthOfInt, if_pos ⟨by omega, by exact_mod_cast hlt⟩, Int.toNat_natCast, UInt32.ofNat_toNat]

/-- A number is read as an integer. -/
lemma requiredInteger_ofNat (name : String) (n : Nat) :
    requiredInteger name (.ofNat n) = .ok (n : Int) := rfl

/-- The hexadecimal spelling of a 64-bit word is read as an integer. -/
lemma requiredInteger_hex (name : String) (w : UInt64) :
    requiredInteger name (.text (Numeral.hex w.toNat)) = .ok (w.toNat : Int) := by
  have hparse : integer? (.text (Numeral.hex w.toNat)) = some (w.toNat : Int) :=
    IntegerLiteral.parse?_hex (w.toNat_lt.trans (by decide))
  rw [requiredInteger, hparse]

/-! ## The JSON value of a declaration -/

namespace Register

/-- The fields of a register make up that register. -/
lemma ofIntegers_toNat (r : Register) :
    ofIntegers r.address.toNat r.label ⟨r.mode.tag⟩ r.initval.toNat = .ok r := by
  simp [ofIntegers, create, r.label_ne]

/-- The members of a register's object are read as that register. -/
theorem ofMembers_toJson (index : Nat) (r : Register) :
    ∃ members, Declaration.registerToJson r = .object members ∧
      ofMembers index members = .ok r := by
  refine ⟨_, rfl, ?_⟩
  rw [ofMembers, requiredMember_of_member? rfl, ok_bind, requiredInteger_ofNat, ok_bind,
    requiredText_of_member? rfl, ok_bind, requiredText_of_member? rfl, ok_bind,
    integerOr_of_member? rfl, requiredInteger_hex, ok_bind, ofIntegers_toNat]
  rfl

/-- The JSON value of a register is read back from its text. -/
theorem faithful_toJson (room : Nat) (r : Register) :
    Faithful (room + 1) (Declaration.registerToJson r) := by
  refine .object (by simp) fun m hm => ?_
  simp only [List.mem_cons, List.not_mem_nil, or_false] at hm
  rcases hm with rfl | rfl | rfl | rfl
  · exact .number r.address.toNat_lt
  · exact .text _
  · exact .text _
  · exact .text _

end Register

/-- The items of an array of registers are read as those registers, whatever index they start at. -/
lemma registersFrom_toJson (index : Nat) (rs : List Register) :
    registersFrom index (rs.map Declaration.registerToJson) = .ok rs := by
  induction rs generalizing index with
  | nil => rfl
  | cons r rs ih =>
    obtain ⟨members, hmembers, hread⟩ := r.ofMembers_toJson index
    simp [hmembers, registersFrom, hread, ih]

namespace Declaration

/-- The JSON value of a declaration is read as that declaration. -/
theorem ofJson_toJson (d : Declaration) : ofJson d.toJson = .ok d := by
  rw [toJson, ofJson, requiredText_of_member? rfl, ok_bind, integerOr_of_member? rfl,
    requiredInteger_ofNat, ok_bind, widthOfInt_toNat, ok_bind, requiredMember_of_member? rfl,
    ok_bind]
  dsimp only
  rw [registersFrom_toJson, ok_bind]
  rfl

/-- The JSON value of a declaration is read back from its text: its objects bind no key twice, its
numbers have 64 bits, and it nests three deep. -/
theorem faithful_toJson (d : Declaration) : Faithful Json.deepest d.toJson := by
  refine .object (by simp) fun m hm => ?_
  simp only [List.mem_cons, List.not_mem_nil, or_false] at hm
  rcases hm with rfl | rfl | rfl
  · exact .text _
  · exact .number (d.registerWidth.toNat_lt.trans (by decide))
  · refine .array fun v hv => ?_
    obtain ⟨r, -, rfl⟩ := List.mem_map.mp hv
    exact r.faithful_toJson _

/-- **A declaration is read back from its text**, compact or with any indent.

**Proof sketch.** The text is read as the JSON value (`Json.parse_compact`, `Json.parse_pretty`),
and the value as the declaration (`ofJson_toJson`). -/
theorem parse_toJson (d : Declaration) :
    parse d.toJson.compact = .ok d ∧ ∀ step, parse (d.toJson.pretty step) = .ok d := by
  refine ⟨?_, fun step => ?_⟩
  · rw [parse, Json.parse_compact d.faithful_toJson]
    exact d.ofJson_toJson
  · rw [parse, Json.parse_pretty d.faithful_toJson]
    exact d.ofJson_toJson

end Declaration

end RegisterFile

import RegisterFile.Proofs.DeclarationConditions
import RegisterFile.Proofs.DeclarationText

set_option autoImplicit false

/-!
# Outcomes of reading a declaration

A JSON text holds a declaration exactly if its value meets the conditions on declarations. The
declaration is then the one that the value describes, and otherwise the first condition that is
violated is reported. What a text binds to other keys, and what it binds to a key before it binds it
again, makes no difference.

## Main results

* `Register.ofMembers_decided`, `registersFrom_outcome`, `Declaration.ofJson_decided` - reading a
  register, the registers and a declaration.
* `Declaration.ofJson_congr` - values that say the same give the same declaration or fault.
* `parse_outcome` - reading a text.
-/

namespace RegisterFile

open Json (mergedMembers mergedItems)

/-! ## Members -/

/-- Merging a value keeps the integer that it stands for. -/
lemma integer?_merged (v : Json.Value) : integer? v.merged = integer? v := by
  cases v <;> rfl

/-- Merging a value keeps the text that it is. -/
lemma text?_merged (v : Json.Value) : v.merged.text? = v.text? := by
  cases v <;> rfl

section Members

variable {key : String} {bindings : List (String × Json.Value)} {part : DeclarationPart}

/-- A key that is not bound is missing. -/
lemma requiredMember_of_unbound (h : (Json.Value.object bindings).last? key = none) :
    requiredMember part key (mergedMembers [] bindings) = .error (.missing part) := by
  rw [requiredMember, Json.member?_merged, h]
  rfl

/-- A key that is bound is bound to the last value, merged. -/
lemma requiredMember_of_bound {a : Json.Value}
    (h : (Json.Value.object bindings).last? key = some a) :
    requiredMember part key (mergedMembers [] bindings) = .ok a.merged := by
  rw [requiredMember, Json.member?_merged, h]
  rfl

/-- Reading a text: the key is missing, its value is no text, or it is the text. -/
lemma requiredText_cases (part : DeclarationPart) (key : String)
    (bindings : List (String × Json.Value)) :
    (¬ (∃ a, (Json.Value.object bindings).last? key = some a) ∧
        requiredText part key (mergedMembers [] bindings) = .error (.missing part)) ∨
      ((∃ a, (Json.Value.object bindings).last? key = some a) ∧
        ¬ (∃ s, BindsText (.object bindings) key s) ∧
        requiredText part key (mergedMembers [] bindings) = .error (.expectedText part)) ∨
      ∃ s, BindsText (.object bindings) key s ∧
        requiredText part key (mergedMembers [] bindings) = .ok s := by
  unfold requiredText BindsText
  cases h : (Json.Value.object bindings).last? key with
  | none =>
    rw [requiredMember_of_unbound h]
    exact .inl ⟨by simp, rfl⟩
  | some a =>
    rw [requiredMember_of_bound h, ok_bind, text?_merged]
    cases a with
    | text s => exact .inr (.inr ⟨s, rfl, rfl⟩)
    | _ => exact .inr (.inl ⟨⟨_, rfl⟩, by simp, rfl⟩)

/-- Reading an integer: the value is none, or it is the integer. -/
lemma requiredInteger_merged_cases (key : String) (a : Json.Value) :
    (integer? a = none ∧
        requiredInteger key a.merged = .error (.invalidInteger key a.merged.compact)) ∨
      ∃ n, integer? a = some n ∧ requiredInteger key a.merged = .ok n := by
  unfold requiredInteger
  rw [integer?_merged]
  cases integer? a with
  | none => exact .inl ⟨rfl, rfl⟩
  | some n => exact .inr ⟨n, rfl, rfl⟩

/-- Reading an integer with a standard value: there is a value that is none, or there is the
integer. -/
lemma integerOr_cases (standard : Int) (key : String) (bindings : List (String × Json.Value)) :
    (∃ a, (Json.Value.object bindings).last? key = some a ∧
        ¬ (∃ n, GivesInteger (.object bindings) key standard n) ∧
        integerOr standard key (mergedMembers [] bindings) =
          .error (.invalidInteger key a.merged.compact)) ∨
      ∃ n, GivesInteger (.object bindings) key standard n ∧
        integerOr standard key (mergedMembers [] bindings) = .ok n := by
  unfold integerOr GivesInteger BindsInteger
  rw [Json.member?_merged]
  cases h : (Json.Value.object bindings).last? key with
  | none => exact .inr ⟨standard, .inl ⟨rfl, rfl⟩, rfl⟩
  | some a =>
    rcases requiredInteger_merged_cases key a with ⟨hnone, hread⟩ | ⟨n, hsome, hread⟩
    · exact .inl ⟨a, rfl, by simp [hnone], hread⟩
    · exact .inr ⟨n, .inr ⟨a, rfl, hsome⟩, hread⟩

end Members

/-! ## Words -/

/-- An integer is negative, too large for 64 bits, or a word. -/
lemma wordOfInt_cases (n : Int) (label : String) (field : RegisterField) :
    (n < 0 ∧ wordOfInt n label field = .error (.negative label field n)) ∨
      (2 ^ 64 ≤ n ∧ wordOfInt n label field = .error (.tooLarge label field n)) ∨
      ∃ w : UInt64, (w.toNat : Int) = n ∧ wordOfInt n label field = .ok w := by
  unfold wordOfInt
  split
  next hneg => exact .inl ⟨hneg, rfl⟩
  next hnonneg =>
    split
    next hlt =>
      have hword : n.toNat < UInt64.size := by omega
      refine .inr (.inr ⟨UInt64.ofNat n.toNat, ?_, rfl⟩)
      rw [UInt64.toNat_ofNat_of_lt' hword]
      omega
    next hlarge => exact .inr (.inl ⟨not_lt.mp hlarge, rfl⟩)

/-- An integer is a width, or it does not fit in 32 bits. -/
lemma widthOfInt_cases (n : Int) :
    (¬ (0 ≤ n ∧ n < 2 ^ 32) ∧ widthOfInt n = .error (.widthTooLarge n)) ∨
      ∃ w : UInt32, (w.toNat : Int) = n ∧ widthOfInt n = .ok w := by
  unfold widthOfInt
  split
  next hword =>
    obtain ⟨hnonneg, hlt⟩ := hword
    have hword : n.toNat < UInt32.size := by omega
    refine .inr ⟨UInt32.ofNat n.toNat, ?_, rfl⟩
    rw [UInt32.toNat_ofNat_of_lt' hword]
    omega
  next hmisfit => exact .inl ⟨hmisfit, rfl⟩

/-! ## Registers -/

/-- The fields of a register are checked in the order of the conditions on them, and behind all
others. -/
lemma Register.ofIntegers_decided {index : Nat} {v : Json.Value} {address initval : Int}
    {label mode : String} (haddress : BindsInteger v "address" address)
    (hlabel : BindsText v "label" label) (hmode : BindsText v "mode" mode)
    (hinitval : GivesInteger v "initval" 0 initval)
    (before : ∀ d : RegisterCondition, d.rank < 8 → d.Holds v) :
    Decided RegisterCondition.rank (RegisterCondition.Holds v) (RegisterCondition.Reports index v)
      (RegisterOf v)
      (match Register.ofIntegers address label ⟨mode⟩ initval with
        | .ok r => return r
        | .error cause => .error (.invalidRegister index cause)) := by
  have haddressWord := RegisterCondition.addressWord_iff haddress
  have hinitvalWord := RegisterCondition.initvalWord_iff hinitval
  unfold Register.ofIntegers
  rcases wordOfInt_cases address label .address with
    ⟨hneg, hword⟩ | ⟨hlarge, hword⟩ | ⟨a, rfl, hword⟩
  · have hmisfit : ¬ RegisterCondition.Holds v .addressWord := fun h => by
      have := haddressWord.mp h
      omega
    exact .error (by rw [hword]; rfl) ⟨hmisfit, before⟩ (.addressNegative hlabel haddress hneg)
  · have hmisfit : ¬ RegisterCondition.Holds v .addressWord := fun h => by
      have := haddressWord.mp h
      omega
    exact .error (by rw [hword]; rfl) ⟨hmisfit, before⟩ (.addressTooLarge hlabel haddress hlarge)
  rw [hword, ok_bind]
  replace before := RegisterCondition.holds_before_next (c := .addressWord) before
    (haddressWord.mpr ⟨by omega, by exact_mod_cast a.toNat_lt⟩)
  rcases wordOfInt_cases initval label .initval with
    ⟨hneg, hword⟩ | ⟨hlarge, hword⟩ | ⟨b, rfl, hword⟩
  · have hmisfit : ¬ RegisterCondition.Holds v .initvalWord := fun h => by
      have := hinitvalWord.mp h
      omega
    exact .error (by rw [hword]; rfl) ⟨hmisfit, before⟩ (.initvalNegative hlabel hinitval hneg)
  · have hmisfit : ¬ RegisterCondition.Holds v .initvalWord := fun h => by
      have := hinitvalWord.mp h
      omega
    exact .error (by rw [hword]; rfl) ⟨hmisfit, before⟩ (.initvalTooLarge hlabel hinitval hlarge)
  rw [hword, ok_bind, Register.create]
  replace before := RegisterCondition.holds_before_next (c := .initvalWord) before
    (hinitvalWord.mpr ⟨by omega, by exact_mod_cast b.toNat_lt⟩)
  split_ifs with hempty
  · have hmisfit : ¬ RegisterCondition.Holds v .labelNonempty := by
      rintro ⟨s, hs, hne⟩
      exact hne ((hs.unique hlabel).trans hempty)
    exact .error rfl ⟨hmisfit, before⟩ (.labelNonempty haddress)
  · exact .ok rfl ⟨haddress, hlabel, hmode, hinitval⟩

/-- Reading a register: each step decides one condition, so that a step is reached only where all
conditions before it hold. -/
theorem Register.ofMembers_decided (index : Nat) (bindings : List (String × Json.Value)) :
    Decided RegisterCondition.rank (RegisterCondition.Holds (.object bindings))
      (RegisterCondition.Reports index (.object bindings)) (RegisterOf (.object bindings))
      (Register.ofMembers index (mergedMembers [] bindings)) := by
  have before : ∀ d : RegisterCondition, d.rank < 1 → d.Holds (.object bindings) :=
    RegisterCondition.holds_before_next (c := .object) nofun ⟨bindings, rfl⟩
  unfold Register.ofMembers
  dsimp only
  cases ha : (Json.Value.object bindings).last? "address" with
  | none =>
    have hunbound : ¬ RegisterCondition.Holds (.object bindings) .addressPresent := by
      rintro ⟨a, ha'⟩
      rw [ha] at ha'
      cases ha'
    exact .error (by rw [requiredMember_of_unbound ha]; rfl) ⟨hunbound, before⟩ .addressPresent
  | some a =>
  rw [requiredMember_of_bound ha, ok_bind]
  replace before := RegisterCondition.holds_before_next (c := .addressPresent) before ⟨a, ha⟩
  rcases requiredInteger_merged_cases "address" a with ⟨hnone, hread⟩ | ⟨address, hsome, hread⟩
  · have hmisfit : ¬ RegisterCondition.Holds (.object bindings) .addressInteger := by
      rintro ⟨n, a', ha', hn⟩
      obtain rfl := Option.some.inj (ha.symm.trans ha')
      rw [hnone] at hn
      cases hn
    exact .error (by rw [hread]; rfl) ⟨hmisfit, before⟩ (.addressInteger ha)
  have haddress : BindsInteger (.object bindings) "address" address := ⟨a, ha, hsome⟩
  rw [hread, ok_bind]
  replace before := RegisterCondition.holds_before_next (c := .addressInteger) before ⟨_, haddress⟩
  rcases requiredText_cases (.registerMember index "label") "label" bindings with
    ⟨hunbound, hread⟩ | ⟨hbound, hmisfit, hread⟩ | ⟨label, hlabel, hread⟩
  · exact .error (c := .labelPresent) (by rw [hread]; rfl) ⟨hunbound, before⟩ .labelPresent
  · replace before := RegisterCondition.holds_before_next (c := .labelPresent) before hbound
    exact .error (c := .labelText) (by rw [hread]; rfl) ⟨hmisfit, before⟩ .labelText
  rw [hread, ok_bind]
  replace before := RegisterCondition.holds_before_next (c := .labelPresent) before ⟨_, hlabel⟩
  replace before := RegisterCondition.holds_before_next (c := .labelText) before ⟨_, hlabel⟩
  rcases requiredText_cases (.registerMember index "mode") "mode" bindings with
    ⟨hunbound, hread⟩ | ⟨hbound, hmisfit, hread⟩ | ⟨mode, hmode, hread⟩
  · exact .error (c := .modePresent) (by rw [hread]; rfl) ⟨hunbound, before⟩ .modePresent
  · replace before := RegisterCondition.holds_before_next (c := .modePresent) before hbound
    exact .error (c := .modeText) (by rw [hread]; rfl) ⟨hmisfit, before⟩ .modeText
  rw [hread, ok_bind]
  replace before := RegisterCondition.holds_before_next (c := .modePresent) before ⟨_, hmode⟩
  replace before := RegisterCondition.holds_before_next (c := .modeText) before ⟨_, hmode⟩
  rcases integerOr_cases 0 "initval" bindings with
    ⟨b, hb, hmisfit, hread⟩ | ⟨initval, hinitval, hread⟩
  · exact .error (c := .initvalInteger) (by rw [hread]; rfl) ⟨hmisfit, before⟩ (.initvalInteger hb)
  rw [hread, ok_bind]
  replace before := RegisterCondition.holds_before_next (c := .initvalInteger) before ⟨_, hinitval⟩
  exact ofIntegers_decided haddress hlabel hmode hinitval before

/-- An item that is no object ends the reading of registers. -/
lemma registersFrom_of_notObject {v : Json.Value} (h : ¬ ∃ bindings, v = .object bindings)
    (index : Nat) (vs : List Json.Value) :
    registersFrom index (v.merged :: vs) = .error (.expectedObject (.register index)) := by
  cases v with
  | object bindings => exact absurd ⟨bindings, rfl⟩ h
  | _ => rfl

/-- Reading registers: all items describe one, or the first item that does not is reported with its
index. -/
theorem registersFrom_outcome (index : Nat) (items : List Json.Value) :
    (∃ rs, registersFrom index (mergedItems items) = .ok rs ∧ List.Forall₂ RegisterOf items rs) ∨
      ∃ (i : Nat) (a : Json.Value) (c : RegisterCondition) (fault : DeclarationFault),
        items[i]? = some a ∧ registersFrom index (mergedItems items) = .error fault ∧
          FirstViolation RegisterCondition.rank (RegisterCondition.Holds a) c ∧
          c.Reports (index + i) a fault ∧
          ∀ (j : Nat) b, j < i → items[j]? = some b → ∀ d : RegisterCondition, d.Holds b := by
  induction items generalizing index with
  | nil => exact .inl ⟨[], rfl, .nil⟩
  | cons v vs ih =>
    have hfirst : ∀ (j : Nat) b, j < 0 → (v :: vs)[j]? = some b →
        ∀ d : RegisterCondition, d.Holds b := fun _ _ hj => absurd hj (Nat.not_lt_zero _)
    by_cases hobject : ∃ bindings, v = .object bindings
    · obtain ⟨bindings, rfl⟩ := hobject
      rw [mergedItems, Json.Value.merged, registersFrom]
      cases Register.ofMembers_decided index bindings with
      | error hx violated reports =>
        exact .inr ⟨0, _, _, _, rfl, by rw [hx]; rfl, violated, reports, hfirst⟩
      | ok hx describes =>
        rw [hx, ok_bind]
        rcases ih (index + 1) with ⟨rs, hrs, hall⟩ | ⟨i, a, c, fault, ha, hfault, violated, reports,
          hfront⟩
        · exact .inl ⟨_, by rw [hrs]; rfl, .cons describes hall⟩
        · rw [Nat.add_assoc, Nat.add_comm 1 i] at reports
          refine .inr ⟨i + 1, a, c, fault, ha, by rw [hfault]; rfl, violated, reports, ?_⟩
          intro j b hj hb
          cases j with
          | zero =>
            obtain rfl := Option.some.inj hb
            exact describes.holds
          | succ j => exact hfront j b (Nat.lt_of_succ_lt_succ hj) hb
    · exact .inr ⟨0, v, .object, _, rfl, registersFrom_of_notObject hobject index _,
        ⟨hobject, fun _ hd => absurd hd (Nat.not_lt_zero _)⟩, .object, hfirst⟩

/-! ## Declarations -/

namespace Declaration

open DeclarationCondition (firstViolation_of_stage holds_before_next)

/-- The array of registers is read behind all others of a declaration. -/
lemma registers_decided {bindings : List (String × Json.Value)} {moduleName : String}
    {registerWidth : UInt32} (hname : BindsText (.object bindings) "module" moduleName)
    (hwidth : GivesInteger (.object bindings) "register_width" 32 registerWidth.toNat)
    (before : ∀ d : DeclarationCondition, d.stage < 5 → d.Holds (.object bindings)) :
    Decided DeclarationCondition.place (DeclarationCondition.Holds (.object bindings))
      (DeclarationCondition.Reports (.object bindings)) (DeclarationOf (.object bindings))
      (do
        match ← requiredMember (.member "registers") "registers" (mergedMembers [] bindings) with
        | .array items => return ⟨moduleName, registerWidth, ← registersFrom 0 items⟩
        | _ => .error (.expectedArray (.member "registers"))) := by
  cases ha : (Json.Value.object bindings).last? "registers" with
  | none =>
    have hunbound : ¬ DeclarationCondition.Holds (.object bindings) .registersPresent := by
      rintro ⟨a, ha'⟩
      rw [ha] at ha'
      cases ha'
    exact .error (by rw [requiredMember_of_unbound ha]; rfl)
      (firstViolation_of_stage (by decide) hunbound before) .registersPresent
  | some a =>
    rw [requiredMember_of_bound ha, ok_bind]
    replace before := holds_before_next (c := .registersPresent) (by decide) before ⟨a, ha⟩
    by_cases harray : ∃ items, a = .array items
    · obtain ⟨items, rfl⟩ := harray
      replace before := holds_before_next (c := .registersArray) (by decide) before ⟨items, ha⟩
      rw [Json.Value.merged]
      rcases registersFrom_outcome 0 items with ⟨rs, hrs, hall⟩ | ⟨i, b, c, fault, hb, hfault,
        violated, reports, hfront⟩
      · exact .ok (by dsimp only; rw [hrs]; rfl) ⟨hname, hwidth, items, ha, hall⟩
      · rw [Nat.zero_add] at reports
        exact .error (by dsimp only; rw [hfault]; rfl)
          (DeclarationCondition.firstViolation_register ha hb violated hfront before)
          (.register ha hb reports)
    · have hmisfit : ¬ DeclarationCondition.Holds (.object bindings) .registersArray := by
        rintro ⟨items, hitems⟩
        exact harray ⟨items, Option.some.inj (ha.symm.trans hitems)⟩
      refine .error ?_ (firstViolation_of_stage (by decide) hmisfit before) .registersArray
      cases a with
      | array items => exact absurd ⟨items, rfl⟩ harray
      | _ => rfl

/-- A value that is no object holds no declaration. -/
lemma ofJson_of_notObject {v : Json.Value} (h : ¬ ∃ bindings, v = .object bindings) :
    ofJson v.merged = .error (.expectedObject .whole) := by
  cases v with
  | object bindings => exact absurd ⟨bindings, rfl⟩ h
  | _ => rfl

/-- Reading a declaration: each step decides one condition, so that a step is reached only where all
conditions before it hold. -/
theorem ofJson_decided (v : Json.Value) :
    Decided DeclarationCondition.place (DeclarationCondition.Holds v)
      (DeclarationCondition.Reports v) (DeclarationOf v) (ofJson v.merged) := by
  by_cases hobject : ∃ bindings, v = .object bindings
  · obtain ⟨bindings, rfl⟩ := hobject
    have before : ∀ d : DeclarationCondition, d.stage < 1 → d.Holds (.object bindings) :=
      holds_before_next (c := .object) (by decide) nofun ⟨bindings, rfl⟩
    rw [Json.Value.merged, ofJson]
    rcases requiredText_cases (.member "module") "module" bindings with
      ⟨hunbound, hread⟩ | ⟨hbound, hmisfit, hread⟩ | ⟨moduleName, hname, hread⟩
    · exact .error (c := .modulePresent) (by rw [hread]; rfl)
        (firstViolation_of_stage (by decide) hunbound before) .modulePresent
    · replace before := holds_before_next (c := .modulePresent) (by decide) before hbound
      exact .error (c := .moduleText) (by rw [hread]; rfl)
        (firstViolation_of_stage (by decide) hmisfit before) .moduleText
    rw [hread, ok_bind]
    replace before := holds_before_next (c := .modulePresent) (by decide) before ⟨_, hname⟩
    replace before := holds_before_next (c := .moduleText) (by decide) before ⟨_, hname⟩
    rcases integerOr_cases RegisterWidth.standard.bits "register_width" bindings with
      ⟨a, ha, hmisfit, hread⟩ | ⟨n, hn, hread⟩
    · exact .error (c := .widthInteger) (by rw [hread]; rfl)
        (firstViolation_of_stage (by decide) hmisfit before) (.widthInteger ha)
    rw [hread, ok_bind]
    replace before := holds_before_next (c := .widthInteger) (by decide) before ⟨n, hn⟩
    rcases widthOfInt_cases n with ⟨hlarge, hwidth⟩ | ⟨w, rfl, hwidth⟩
    · have hmisfit : ¬ DeclarationCondition.Holds (.object bindings) .widthWord := by
        rintro ⟨m, hm, hword⟩
        rw [hm.unique hn] at hword
        exact hlarge hword
      exact .error (by rw [hwidth]; rfl)
        (firstViolation_of_stage (by decide) hmisfit before) (.widthWord hn)
    rw [hwidth, ok_bind]
    replace before := holds_before_next (c := .widthWord) (by decide) before
      ⟨_, hn, by omega, by exact_mod_cast w.toNat_lt⟩
    exact registers_decided hname hn before
  · exact .error (c := .object) (ofJson_of_notObject hobject)
      (firstViolation_of_stage (by decide) hobject nofun) .object

end Declaration

/-! ## What makes no difference -/

/-- A register depends on what its object binds to four keys. -/
lemma Register.ofMembers_congr {members members' : Json.Members} (index : Nat)
    (h : ∀ key ∈ ["address", "label", "mode", "initval"],
      Json.member? key members = Json.member? key members') :
    Register.ofMembers index members = Register.ofMembers index members' := by
  have haddress := h "address" (by simp)
  have hlabel := h "label" (by simp)
  have hmode := h "mode" (by simp)
  have hinitval := h "initval" (by simp)
  simp only [Register.ofMembers, requiredText, requiredMember, integerOr, haddress, hlabel, hmode,
    hinitval]

/-- Items that say the same give the same registers. -/
lemma registersFrom_congr {xs ys : List Json.Value} (h : List.Forall₂ RegisterAlike xs ys)
    (index : Nat) :
    registersFrom index (mergedItems xs) = registersFrom index (mergedItems ys) := by
  induction h generalizing index with
  | nil => rfl
  | @cons x y xs ys halike _ ih =>
    rw [mergedItems, mergedItems]
    by_cases hobject : ∃ bindings, x = .object bindings
    · obtain ⟨bindings', rfl⟩ := halike.object.mp hobject
      obtain ⟨bindings, rfl⟩ := hobject
      have hmembers : Register.ofMembers index (mergedMembers [] bindings) =
          Register.ofMembers index (mergedMembers [] bindings') :=
        Register.ofMembers_congr index fun key hkey => by
          rw [Json.member?_merged, Json.member?_merged, halike.members key hkey]
      rw [Json.Value.merged, Json.Value.merged, registersFrom, registersFrom, hmembers, ih]
    · rw [registersFrom_of_notObject hobject,
        registersFrom_of_notObject (mt halike.object.mpr hobject)]

/-- **Values that say the same give the same declaration or the same fault.** -/
theorem Declaration.ofJson_congr {v w : Json.Value} (h : DeclarationAlike v w) :
    ofJson v.merged = ofJson w.merged := by
  by_cases hobject : ∃ bindings, v = .object bindings
  · obtain ⟨bindings', rfl⟩ := h.object.mp hobject
    obtain ⟨bindings, rfl⟩ := hobject
    have hmember : ∀ key ∈ ["module", "register_width"],
        Json.member? key (mergedMembers [] bindings) =
          Json.member? key (mergedMembers [] bindings') := fun key hkey => by
      rw [Json.member?_merged, Json.member?_merged, h.members key hkey]
    have hname : requiredText (.member "module") "module" (mergedMembers [] bindings) =
        requiredText (.member "module") "module" (mergedMembers [] bindings') := by
      rw [requiredText, requiredText, requiredMember, requiredMember, hmember "module" (by simp)]
    have hwidth : integerOr RegisterWidth.standard.bits "register_width"
        (mergedMembers [] bindings) = integerOr RegisterWidth.standard.bits "register_width"
        (mergedMembers [] bindings') := by
      rw [integerOr, integerOr, hmember "register_width" (by simp)]
    have hregisters := h.registers
    rw [Json.Value.merged, Json.Value.merged, ofJson, ofJson, hname, hwidth]
    refine bind_congr fun moduleName => bind_congr fun width => bind_congr fun registerWidth => ?_
    generalize hv : (Json.Value.object bindings).last? "registers" = x at hregisters
    generalize hw : (Json.Value.object bindings').last? "registers" = y at hregisters
    cases hregisters with
    | unbound => rw [requiredMember_of_unbound hv, requiredMember_of_unbound hw]
    | arrays halike =>
      rw [requiredMember_of_bound hv, requiredMember_of_bound hw, ok_bind, ok_bind,
        Json.Value.merged, Json.Value.merged]
      dsimp only
      rw [registersFrom_congr halike]
    | @others x y hx hy =>
      rw [requiredMember_of_bound hv, requiredMember_of_bound hw, ok_bind, ok_bind]
      have hread : ∀ u : Json.Value, (∀ us, u ≠ .array us) →
          (match u.merged with
            | .array items => do return ⟨moduleName, registerWidth, ← registersFrom 0 items⟩
            | _ => .error (.expectedArray (.member "registers"))) =
          (.error (.expectedArray (.member "registers")) :
            Except DeclarationFault Declaration) := by
        intro u hu
        cases u with
        | array us => exact absurd rfl (hu us)
        | _ => rfl
      exact (hread x hx).trans (hread y hy).symm
  · rw [ofJson_of_notObject hobject, ofJson_of_notObject (mt h.object.mpr hobject)]

/-! ## Texts -/

/-- **What becomes of a JSON text.** The text spells one value. It holds a declaration exactly if
this value meets all conditions, and then the declaration that the value describes. Otherwise the
first condition that is violated is reported. A text that says the same under the keys that count
gives the same declaration or the same fault.

**Proof sketch.** What is read from the text is what it spells, merged
(`Json.exists_spells_of_parse`), and reading a declaration from that is decided by the conditions
(`Declaration.ofJson_decided`). -/
theorem parse_outcome {text : String} (h : ∃ v, Json.parse text = .ok v) :
    ∃ v, Json.Spells text v ∧ (∀ v', Json.Spells text v' → v' = v) ∧
      ((∃ d, Declaration.parse text = .ok d) ↔ ∀ c : DeclarationCondition, c.Holds v) ∧
      (∀ d, Declaration.parse text = .ok d → DeclarationOf v d) ∧
      (∀ fault, Declaration.parse text = .error fault ↔
        ∃ c, FirstViolation DeclarationCondition.place (DeclarationCondition.Holds v) c ∧
          DeclarationCondition.Reports v c fault) ∧
      ∀ text' v', (∃ u, Json.parse text' = .ok u) → Json.Spells text' v' →
        DeclarationAlike v v' → Declaration.parse text = Declaration.parse text' := by
  have hparse : ∀ text, (∃ v, Json.parse text = .ok v) → ∃ v, Json.Spells text v ∧
      (∀ v', Json.Spells text v' → v' = v) ∧
        Declaration.parse text = Declaration.ofJson v.merged := by
    rintro text ⟨u, hu⟩
    obtain ⟨v, hv, hunique, rfl⟩ := Json.exists_spells_of_parse hu
    exact ⟨v, hv, hunique, by rw [Declaration.parse, hu]⟩
  obtain ⟨v, hv, hunique, hread⟩ := hparse text h
  obtain ⟨hok, hdescribes, herror⟩ := (Declaration.ofJson_decided v).iff
    DeclarationCondition.place_injective DeclarationCondition.Reports.unique DeclarationOf.holds
  refine ⟨v, hv, hunique, hread ▸ hok, hread ▸ hdescribes, hread ▸ herror, ?_⟩
  intro text' v' h' hv' halike
  obtain ⟨w, -, hunique', hread'⟩ := hparse text' h'
  obtain rfl := hunique' v' hv'
  rw [hread, hread', Declaration.ofJson_congr halike]

/-- A text that binds a key twice and describes a register without a label is reported as such. -/
theorem parse_outcome_emptyLabel :
    let text := "\x7b\"module\": 3, \"registers\": [\x7b\"address\": 1, \"label\": \"\", " ++
      "\"mode\": \"ctrl\"\x7d], \"module\": \"m\"\x7d"
    ∃ v c, Json.Spells text v ∧
      FirstViolation DeclarationCondition.place (DeclarationCondition.Holds v) c ∧
      DeclarationCondition.Reports v c (.invalidRegister 0 (.emptyLabel 1)) := by
  intro text
  have hread : (Json.parse text).toBool = true := by decide +kernel
  have hparse : ∃ u, Json.parse text = .ok u := by
    cases hu : Json.parse text with
    | ok u => exact ⟨u, rfl⟩
    | error cause =>
      rw [hu] at hread
      cases hread
  have hfault : Declaration.parse text = .error (.invalidRegister 0 (.emptyLabel 1)) := by
    decide +kernel
  obtain ⟨v, hv, -, -, -, herror, -⟩ := parse_outcome hparse
  obtain ⟨c, violated, reports⟩ := (herror _).mp hfault
  exact ⟨v, c, hv, violated, reports⟩

end RegisterFile

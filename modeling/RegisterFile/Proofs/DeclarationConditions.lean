import Mathlib.Data.List.Forall2
import Mathlib.Data.Prod.Lex
import RegisterFile.Declaration
import RegisterFile.Proofs.Json.Bindings

set_option autoImplicit false

/-!
# What a JSON value has to hold for a declaration

Conditions on a JSON value, in the order in which a violation counts: those on the whole value, then
those on each item of the array of registers, item by item. Each condition comes with the fault that
reports its violation. The conditions look at a few keys only, and at the last value that such a key
is bound to.

## Main definitions

* `FirstViolation` - one condition does not hold and all conditions before it do.
* `Decided` - a computation has a result or reports the first violation.
* `RegisterCondition`, `DeclarationCondition` - the conditions, with `Holds` and `Reports`.
* `RegisterOf`, `DeclarationOf` - the register and the declaration that a value describes.
* `RegisterAlike`, `DeclarationAlike` - values that say the same about all keys that count.

## Main results

* `FirstViolation.unique` - only one condition is the first that is violated.
* `Decided.iff` - when there is a result, and when there is a fault.
* `DeclarationCondition.Reports.unique` - only one fault reports it.
-/

namespace RegisterFile

/-! ## First violations -/

section FirstViolation

variable {ι α : Type} [LinearOrder α] {place : ι → α} {Holds : ι → Prop}

/-- A condition does not hold, and all those at places before it do. -/
def FirstViolation (place : ι → α) (Holds : ι → Prop) (c : ι) : Prop :=
  ¬ Holds c ∧ ∀ d, place d < place c → Holds d

/-- Only one condition is the first that is violated. -/
theorem FirstViolation.unique (hplace : Function.Injective place) {c d : ι}
    (hc : FirstViolation place Holds c) (hd : FirstViolation place Holds d) : c = d := by
  rcases lt_trichotomy (place c) (place d) with hlt | heq | hlt
  · exact absurd (hd.2 c hlt) hc.1
  · exact hplace heq
  · exact absurd (hc.2 d hlt) hd.1

/-- The conditions that hold before a place still do with the one at that place. -/
lemma holds_before_succ {stage : ι → ℕ} {c : ι} (hstage : ∀ d, stage d = stage c → d = c)
    (before : ∀ d, stage d < stage c → Holds d) (hc : Holds c) (d : ι)
    (hd : stage d < stage c + 1) : Holds d := by
  rcases Nat.lt_succ_iff_lt_or_eq.mp hd with hlt | heq
  · exact before d hlt
  · rw [hstage d heq]
    exact hc

/-- A computation is decided by conditions: its result is as described, or its fault reports the
first condition that is violated. -/
inductive Decided {β ε : Type} (place : ι → α) (Holds : ι → Prop) (Reports : ι → ε → Prop)
    (Describes : β → Prop) (x : Except ε β) : Prop
  | ok {b : β} (hx : x = .ok b) (describes : Describes b)
  | error {c : ι} {fault : ε} (hx : x = .error fault) (violated : FirstViolation place Holds c)
      (reports : Reports c fault)

/-- **What it means to be decided by conditions**, if only one fault reports a violation and what a
result is described by meets all conditions: there is a result exactly if all conditions hold, and
there is a fault exactly if it reports the first violation. -/
theorem Decided.iff {β ε : Type} {Reports : ι → ε → Prop} {Describes : β → Prop}
    {x : Except ε β} (h : Decided place Holds Reports Describes x)
    (hplace : Function.Injective place)
    (hreports : ∀ {c f g}, Reports c f → Reports c g → f = g)
    (hdescribes : ∀ {b}, Describes b → ∀ c, Holds c) :
    ((∃ b, x = .ok b) ↔ ∀ c, Holds c) ∧ (∀ b, x = .ok b → Describes b) ∧
      ∀ fault, x = .error fault ↔ ∃ c, FirstViolation place Holds c ∧ Reports c fault := by
  cases h with
  | ok hx describes =>
    subst hx
    refine ⟨⟨fun _ => hdescribes describes, fun _ => ⟨_, rfl⟩⟩, fun b hb => ?_,
      fun fault => ⟨nofun, fun ⟨c, violated, _⟩ => ?_⟩⟩
    · obtain rfl := Except.ok.inj hb
      exact describes
    · exact absurd (hdescribes describes c) violated.1
  | error hx violated reports =>
    subst hx
    refine ⟨⟨nofun, fun hall => absurd (hall _) violated.1⟩, nofun,
      fun fault => ⟨fun hfault => ?_, fun ⟨d, violated', reports'⟩ => ?_⟩⟩
    · obtain rfl := Except.error.inj hfault
      exact ⟨_, violated, reports⟩
    · obtain rfl := violated.unique hplace violated'
      rw [hreports reports reports']

end FirstViolation

/-! ## What a key stands for -/

section Members

variable (v : Json.Value) (key : String)

/-- The last value that a key is bound to stands for an integer. -/
def BindsInteger (n : Int) : Prop :=
  ∃ a, v.last? key = some a ∧ integer? a = some n

/-- The last value that a key is bound to is a text. -/
def BindsText (s : String) : Prop :=
  v.last? key = some (.text s)

/-- A key stands for an integer, which is a standard one if the key is not bound. -/
def GivesInteger (standard n : Int) : Prop :=
  v.last? key = none ∧ n = standard ∨ BindsInteger v key n

variable {v key}

/-- A key stands for one integer at most. -/
lemma BindsInteger.unique {n n' : Int} (h : BindsInteger v key n)
    (h' : BindsInteger v key n') : n = n' := by
  obtain ⟨a, ha, hn⟩ := h
  obtain ⟨a', ha', hn'⟩ := h'
  obtain rfl := Option.some.inj (ha.symm.trans ha')
  exact Option.some.inj (hn.symm.trans hn')

/-- A key is bound to one text at most. -/
lemma BindsText.unique {s s' : String} (h : BindsText v key s) (h' : BindsText v key s') :
    s = s' :=
  Json.Value.text.inj (Option.some.inj (h.symm.trans h'))

/-- With a standard, too, a key stands for one integer at most. -/
lemma GivesInteger.unique {standard n n' : Int} (h : GivesInteger v key standard n)
    (h' : GivesInteger v key standard n') : n = n' := by
  rcases h with ⟨hnone, rfl⟩ | h
  · rcases h' with ⟨-, rfl⟩ | ⟨a, ha, -⟩
    · rfl
    · rw [hnone] at ha
      cases ha
  · rcases h' with ⟨hnone, -⟩ | h'
    · obtain ⟨a, ha, -⟩ := h
      rw [hnone] at ha
      cases ha
    · exact h.unique h'

end Members

/-! ## Registers -/

/-- The conditions on an item of the array of registers. -/
inductive RegisterCondition where
  /-- It is an object. -/
  | object
  | addressPresent
  | addressInteger
  | labelPresent
  | labelText
  | modePresent
  | modeText
  /-- The value on reset is an integer if there is one. -/
  | initvalInteger
  /-- The address fits in 64 bits. -/
  | addressWord
  /-- The value on reset fits in 64 bits. -/
  | initvalWord
  | labelNonempty
  deriving DecidableEq, Repr

namespace RegisterCondition

variable (index : Nat) (v : Json.Value)

/-- The place of a condition in their order. -/
def rank : RegisterCondition → Nat
  | .object => 0
  | .addressPresent => 1
  | .addressInteger => 2
  | .labelPresent => 3
  | .labelText => 4
  | .modePresent => 5
  | .modeText => 6
  | .initvalInteger => 7
  | .addressWord => 8
  | .initvalWord => 9
  | .labelNonempty => 10

/-- Conditions at the same place are the same. -/
lemma rank_injective : Function.Injective rank := by
  intro c d h
  cases c <;> cases d <;> simp_all [rank]

/-- When a condition holds for an item. -/
def Holds : RegisterCondition → Prop
  | .object => ∃ bindings, v = .object bindings
  | .addressPresent => ∃ a, v.last? "address" = some a
  | .addressInteger => ∃ n, BindsInteger v "address" n
  | .labelPresent => ∃ a, v.last? "label" = some a
  | .labelText => ∃ s, BindsText v "label" s
  | .modePresent => ∃ a, v.last? "mode" = some a
  | .modeText => ∃ s, BindsText v "mode" s
  | .initvalInteger => ∃ n, GivesInteger v "initval" 0 n
  | .addressWord => ∃ n, BindsInteger v "address" n ∧ 0 ≤ n ∧ n < 2 ^ 64
  | .initvalWord => ∃ n, GivesInteger v "initval" 0 n ∧ 0 ≤ n ∧ n < 2 ^ 64
  | .labelNonempty => ∃ s, BindsText v "label" s ∧ s ≠ ""

/-- The fault that reports the violation of a condition by the item at an index. -/
inductive Reports : RegisterCondition → DeclarationFault → Prop
  | object : Reports .object (.expectedObject (.register index))
  | addressPresent : Reports .addressPresent (.missing (.registerMember index "address"))
  | addressInteger {a : Json.Value} (ha : v.last? "address" = some a) :
      Reports .addressInteger (.invalidInteger "address" a.merged.compact)
  | labelPresent : Reports .labelPresent (.missing (.registerMember index "label"))
  | labelText : Reports .labelText (.expectedText (.registerMember index "label"))
  | modePresent : Reports .modePresent (.missing (.registerMember index "mode"))
  | modeText : Reports .modeText (.expectedText (.registerMember index "mode"))
  | initvalInteger {a : Json.Value} (ha : v.last? "initval" = some a) :
      Reports .initvalInteger (.invalidInteger "initval" a.merged.compact)
  | addressNegative {s : String} {n : Int} (hs : BindsText v "label" s)
      (hn : BindsInteger v "address" n) (hneg : n < 0) :
      Reports .addressWord (.invalidRegister index (.negative s .address n))
  | addressTooLarge {s : String} {n : Int} (hs : BindsText v "label" s)
      (hn : BindsInteger v "address" n) (hlarge : 2 ^ 64 ≤ n) :
      Reports .addressWord (.invalidRegister index (.tooLarge s .address n))
  | initvalNegative {s : String} {n : Int} (hs : BindsText v "label" s)
      (hn : GivesInteger v "initval" 0 n) (hneg : n < 0) :
      Reports .initvalWord (.invalidRegister index (.negative s .initval n))
  | initvalTooLarge {s : String} {n : Int} (hs : BindsText v "label" s)
      (hn : GivesInteger v "initval" 0 n) (hlarge : 2 ^ 64 ≤ n) :
      Reports .initvalWord (.invalidRegister index (.tooLarge s .initval n))
  | labelNonempty {address : UInt64} (hn : BindsInteger v "address" address.toNat) :
      Reports .labelNonempty (.invalidRegister index (.emptyLabel address))

variable {index v}

/-- Only one fault reports the violation of a condition. -/
theorem Reports.unique {c : RegisterCondition} {f g : DeclarationFault}
    (hf : Reports index v c f) (hg : Reports index v c g) : f = g := by
  cases hf with
  | object | addressPresent | labelPresent | labelText | modePresent | modeText =>
    cases hg
    rfl
  | addressInteger ha =>
    cases hg with
    | addressInteger ha' => rw [Option.some.inj (ha.symm.trans ha')]
  | initvalInteger ha =>
    cases hg with
    | initvalInteger ha' => rw [Option.some.inj (ha.symm.trans ha')]
  | addressNegative hs hn hneg =>
    cases hg with
    | addressNegative hs' hn' _ => rw [hs.unique hs', hn.unique hn']
    | addressTooLarge _ hn' hlarge =>
      rw [hn.unique hn'] at hneg
      omega
  | addressTooLarge hs hn hlarge =>
    cases hg with
    | addressNegative _ hn' hneg =>
      rw [hn.unique hn'] at hlarge
      omega
    | addressTooLarge hs' hn' _ => rw [hs.unique hs', hn.unique hn']
  | initvalNegative hs hn hneg =>
    cases hg with
    | initvalNegative hs' hn' _ => rw [hs.unique hs', hn.unique hn']
    | initvalTooLarge _ hn' hlarge =>
      rw [hn.unique hn'] at hneg
      omega
  | initvalTooLarge hs hn hlarge =>
    cases hg with
    | initvalNegative _ hn' hneg =>
      rw [hn.unique hn'] at hlarge
      omega
    | initvalTooLarge hs' hn' _ => rw [hs.unique hs', hn.unique hn']
  | labelNonempty hn =>
    cases hg with
    | labelNonempty hn' => rw [UInt64.toNat_inj.mp (Int.ofNat_inj.mp (hn.unique hn'))]

/-- An address meets the condition on it if it fits in 64 bits. -/
lemma addressWord_iff {n : Int} (hn : BindsInteger v "address" n) :
    Holds v .addressWord ↔ 0 ≤ n ∧ n < 2 ^ 64 := by
  refine ⟨?_, fun h => ⟨n, hn, h⟩⟩
  rintro ⟨n', hn', h⟩
  rwa [hn.unique hn']

/-- A value on reset meets the condition on it if it fits in 64 bits. -/
lemma initvalWord_iff {n : Int} (hn : GivesInteger v "initval" 0 n) :
    Holds v .initvalWord ↔ 0 ≤ n ∧ n < 2 ^ 64 := by
  refine ⟨?_, fun h => ⟨n, hn, h⟩⟩
  rintro ⟨n', hn', h⟩
  rwa [hn.unique hn']

/-- The conditions that hold before a place still do with the one at that place. -/
lemma holds_before_next {c : RegisterCondition} (before : ∀ d, rank d < rank c → Holds v d)
    (hc : Holds v c) : ∀ d, rank d < rank c + 1 → Holds v d :=
  holds_before_succ (fun _ h => rank_injective h) before hc

end RegisterCondition

/-- The register that an item describes. -/
structure RegisterOf (v : Json.Value) (r : Register) : Prop where
  address : BindsInteger v "address" r.address.toNat
  label : BindsText v "label" r.label
  mode : BindsText v "mode" r.mode.tag
  initval : GivesInteger v "initval" 0 r.initval.toNat

/-- An item that describes a register meets all conditions. -/
lemma RegisterOf.holds {v : Json.Value} {r : Register} (h : RegisterOf v r)
    (c : RegisterCondition) : c.Holds v := by
  obtain ⟨a, ha, -⟩ := id h.address
  cases c with
  | object =>
    cases v with
    | object bindings => exact ⟨bindings, rfl⟩
    | _ => cases ha
  | addressPresent => exact ⟨a, ha⟩
  | addressInteger => exact ⟨_, h.address⟩
  | labelPresent => exact ⟨_, h.label⟩
  | labelText => exact ⟨_, h.label⟩
  | modePresent => exact ⟨_, h.mode⟩
  | modeText => exact ⟨_, h.mode⟩
  | initvalInteger => exact ⟨_, h.initval⟩
  | addressWord => exact ⟨_, h.address, by omega, by exact_mod_cast r.address.toNat_lt⟩
  | initvalWord => exact ⟨_, h.initval, by omega, by exact_mod_cast r.initval.toNat_lt⟩
  | labelNonempty => exact ⟨_, h.label, r.label_ne⟩

/-! ## Declarations -/

/-- The conditions on a whole value. -/
inductive DeclarationCondition where
  /-- It is an object. -/
  | object
  | modulePresent
  | moduleText
  /-- The width is an integer if there is one. -/
  | widthInteger
  /-- The width fits in 32 bits. -/
  | widthWord
  | registersPresent
  | registersArray
  /-- A condition on the item at an index of the array of registers. -/
  | register (index : Nat) (condition : RegisterCondition)
  deriving DecidableEq, Repr

namespace DeclarationCondition

variable (v : Json.Value)

/-- The place of a condition among those on the whole value; those on items come last. -/
def stage : DeclarationCondition → ℕ
  | .object => 0
  | .modulePresent => 1
  | .moduleText => 2
  | .widthInteger => 3
  | .widthWord => 4
  | .registersPresent => 5
  | .registersArray => 6
  | .register _ _ => 7

/-- The place of a condition on an item: the items come one after another. -/
def itemPlace : DeclarationCondition → ℕ ×ₗ ℕ
  | .register index c => toLex (index, c.rank)
  | _ => toLex (0, 0)

/-- The place of a condition in their order. -/
def place (c : DeclarationCondition) : ℕ ×ₗ ℕ ×ₗ ℕ := toLex (c.stage, c.itemPlace)

/-- Conditions at the same place are the same. -/
lemma place_injective : Function.Injective place := by
  intro c d h
  cases c <;> cases d <;>
    simp_all [place, stage, itemPlace, RegisterCondition.rank_injective.eq_iff]

/-- Conditions on the whole value at the same place are the same. -/
lemma eq_of_stage_eq {c : DeclarationCondition} (hc : c.stage < 7) (d : DeclarationCondition)
    (h : d.stage = c.stage) : d = c := by
  cases c <;> cases d <;> simp_all [stage]

/-- What is before a condition on the whole value is one on the whole value. -/
lemma stage_lt_of_place_lt {c d : DeclarationCondition} (hc : c.stage < 7)
    (h : d.place < c.place) : d.stage < c.stage := by
  rcases Prod.Lex.toLex_lt_toLex.mp h with hlt | ⟨heq, hlt⟩
  · exact hlt
  · rw [eq_of_stage_eq hc d heq] at hlt
    exact absurd hlt (lt_irrefl _)

/-- When a condition holds for a value. -/
def Holds : DeclarationCondition → Prop
  | .object => ∃ bindings, v = .object bindings
  | .modulePresent => ∃ a, v.last? "module" = some a
  | .moduleText => ∃ s, BindsText v "module" s
  | .widthInteger => ∃ n, GivesInteger v "register_width" 32 n
  | .widthWord => ∃ n, GivesInteger v "register_width" 32 n ∧ 0 ≤ n ∧ n < 2 ^ 32
  | .registersPresent => ∃ a, v.last? "registers" = some a
  | .registersArray => ∃ items, v.last? "registers" = some (.array items)
  | .register index c => ∀ items a, v.last? "registers" = some (.array items) →
      items[index]? = some a → c.Holds a

/-- The fault that reports the violation of a condition. -/
inductive Reports : DeclarationCondition → DeclarationFault → Prop
  | object : Reports .object (.expectedObject .whole)
  | modulePresent : Reports .modulePresent (.missing (.member "module"))
  | moduleText : Reports .moduleText (.expectedText (.member "module"))
  | widthInteger {a : Json.Value} (ha : v.last? "register_width" = some a) :
      Reports .widthInteger (.invalidInteger "register_width" a.merged.compact)
  | widthWord {n : Int} (hn : GivesInteger v "register_width" 32 n) :
      Reports .widthWord (.widthTooLarge n)
  | registersPresent : Reports .registersPresent (.missing (.member "registers"))
  | registersArray : Reports .registersArray (.expectedArray (.member "registers"))
  | register {index : Nat} {c : RegisterCondition} {items : List Json.Value} {a : Json.Value}
      {fault : DeclarationFault} (hitems : v.last? "registers" = some (.array items))
      (ha : items[index]? = some a) (hreports : c.Reports index a fault) :
      Reports (.register index c) fault

variable {v}

/-- Only one fault reports the violation of a condition. -/
theorem Reports.unique {c : DeclarationCondition} {f g : DeclarationFault}
    (hf : Reports v c f) (hg : Reports v c g) : f = g := by
  cases hf with
  | object | modulePresent | moduleText | registersPresent | registersArray =>
    cases hg
    rfl
  | widthInteger ha =>
    cases hg with
    | widthInteger ha' => rw [Option.some.inj (ha.symm.trans ha')]
  | widthWord hn =>
    cases hg with
    | widthWord hn' => rw [hn.unique hn']
  | register hitems ha hreports =>
    cases hg with
    | register hitems' ha' hreports' =>
      obtain rfl := Json.Value.array.inj (Option.some.inj (hitems.symm.trans hitems'))
      obtain rfl := Option.some.inj (ha.symm.trans ha')
      exact hreports.unique hreports'

/-- The conditions that hold before one on the whole value still do with this one. -/
lemma holds_before_next {c : DeclarationCondition} (hc : c.stage < 7)
    (before : ∀ d, stage d < stage c → Holds v d) (h : Holds v c) :
    ∀ d, stage d < stage c + 1 → Holds v d :=
  holds_before_succ (eq_of_stage_eq hc) before h

/-- A condition on the whole value that does not hold where all those before it do. -/
lemma firstViolation_of_stage {c : DeclarationCondition} (hc : c.stage < 7) (h : ¬ Holds v c)
    (before : ∀ d, stage d < stage c → Holds v d) : FirstViolation place (Holds v) c :=
  ⟨h, fun d hd => before d (stage_lt_of_place_lt hc hd)⟩

/-- A condition on an item is the first that is violated if it is so for its item, the items before
meet all conditions and so does the whole value. -/
lemma firstViolation_register {items : List Json.Value} {i : Nat} {a : Json.Value}
    {c : RegisterCondition} (hitems : v.last? "registers" = some (.array items))
    (ha : items[i]? = some a)
    (h : FirstViolation RegisterCondition.rank (RegisterCondition.Holds a) c)
    (hfront : ∀ (j : Nat) b, j < i → items[j]? = some b → ∀ d : RegisterCondition, d.Holds b)
    (before : ∀ d : DeclarationCondition, d.stage < 7 → d.Holds v) :
    FirstViolation place (Holds v) (.register i c) := by
  refine ⟨fun hold => h.1 (hold items a hitems ha), fun d hd => ?_⟩
  rcases Prod.Lex.toLex_lt_toLex.mp hd with hlt | ⟨heq, hlt⟩
  · exact before d hlt
  · cases d with
    | register j d =>
      intro items' b hitems' hb
      obtain rfl := Json.Value.array.inj (Option.some.inj (hitems.symm.trans hitems'))
      rcases Prod.Lex.toLex_lt_toLex.mp hlt with hj | ⟨rfl, hrank⟩
      · exact hfront j b hj hb d
      · obtain rfl := Option.some.inj (ha.symm.trans hb)
        exact h.2 d hrank
    | _ => cases heq

end DeclarationCondition

/-- The declaration that a value describes: its registers are those that the items of the array
describe, in their order. -/
structure DeclarationOf (v : Json.Value) (d : Declaration) : Prop where
  moduleName : BindsText v "module" d.moduleName
  registerWidth : GivesInteger v "register_width" 32 d.registerWidth.toNat
  registers : ∃ items, v.last? "registers" = some (.array items) ∧
    List.Forall₂ RegisterOf items d.registers

/-- A value that describes a declaration meets all conditions. -/
lemma DeclarationOf.holds {v : Json.Value} {d : Declaration} (h : DeclarationOf v d)
    (c : DeclarationCondition) : c.Holds v := by
  obtain ⟨items, hitems, hregisters⟩ := h.registers
  cases c with
  | object =>
    cases v with
    | object bindings => exact ⟨bindings, rfl⟩
    | _ => cases hitems
  | modulePresent => exact ⟨_, h.moduleName⟩
  | moduleText => exact ⟨_, h.moduleName⟩
  | widthInteger => exact ⟨_, h.registerWidth⟩
  | widthWord => exact ⟨_, h.registerWidth, by omega, by exact_mod_cast d.registerWidth.toNat_lt⟩
  | registersPresent => exact ⟨_, hitems⟩
  | registersArray => exact ⟨_, hitems⟩
  | register index c =>
    intro items' a hitems' ha
    obtain rfl := Json.Value.array.inj (Option.some.inj (hitems.symm.trans hitems'))
    obtain ⟨hindex, rfl⟩ := List.getElem?_eq_some_iff.mp ha
    exact (List.Forall₂.get hregisters hindex (hregisters.length_eq ▸ hindex)).holds c

/-! ## Values that say the same -/

/-- Items that say the same about the keys of registers. -/
structure RegisterAlike (a b : Json.Value) : Prop where
  object : (∃ bindings, a = .object bindings) ↔ ∃ bindings, b = .object bindings
  members : ∀ key ∈ ["address", "label", "mode", "initval"],
    (a.last? key).map Json.Value.merged = (b.last? key).map Json.Value.merged

/-- What is bound to the key of the registers says the same: nothing at all, arrays of items that
say the same one by one, or no arrays. -/
inductive RegistersAlike : Option Json.Value → Option Json.Value → Prop
  | unbound : RegistersAlike none none
  | arrays {xs ys : List Json.Value} (h : List.Forall₂ RegisterAlike xs ys) :
      RegistersAlike (some (.array xs)) (some (.array ys))
  | others {x y : Json.Value} (hx : ∀ xs, x ≠ .array xs) (hy : ∀ ys, y ≠ .array ys) :
      RegistersAlike (some x) (some y)

/-- Values that say the same about the keys of declarations. -/
structure DeclarationAlike (a b : Json.Value) : Prop where
  object : (∃ bindings, a = .object bindings) ↔ ∃ bindings, b = .object bindings
  members : ∀ key ∈ ["module", "register_width"],
    (a.last? key).map Json.Value.merged = (b.last? key).map Json.Value.merged
  registers : RegistersAlike (a.last? "registers") (b.last? "registers")

end RegisterFile

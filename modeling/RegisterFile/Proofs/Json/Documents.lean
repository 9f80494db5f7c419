import RegisterFile.Proofs.Json.NumberSyntax

set_option autoImplicit false

/-!
# JSON text with its number literals

A value that is read from a text does not tell how its numbers are spelled. A document is a value
whose numbers are literals. Every text that can be read spells a document, and what is read from it
is what is kept of the document, merged, so that the same paths lead to the same places in both.

## Main definitions

* `Json.Document` - a value whose numbers are literals and whose objects keep all bindings.
* `Json.Document.value` - the value that is kept of a document.
* `Json.SpellsDocument`, `Json.Document.IsSpelledBy` - the document that characters or a text
  spell.
* `Json.Step`, `Json.Document.follow?` - what a path through a document leads to.

## Main results

* `Json.SpellsDocument.spellsAtMost` - no other value is spelled where a document is spelled.
* `Json.exists_isSpelledBy_of_parse` - every text that is read spells a document.
* `Json.Document.IsSpelledBy.follow?_of_parse` - what is read from a text that spells a document.
-/

namespace RegisterFile.Json

/-! ## Documents -/

/-- A JSON value whose numbers are as they are spelled, and whose objects keep all bindings. -/
inductive Document where
  | null
  | boolean (b : Bool)
  | number (l : NumberLiteral)
  | text (s : String)
  | array (items : List Document)
  | object (bindings : List (String × Document))

mutual

/-- The value that is kept of a document, with all bindings. -/
def Document.value : Document → Value
  | .null => .null
  | .boolean b => .boolean b
  | .number l => .number l.stored
  | .text s => .text s
  | .array items => .array (itemValues items)
  | .object bindings => .object (bindingValues bindings)

/-- The values that are kept of the items of an array. -/
def itemValues : List Document → List Value
  | [] => []
  | doc :: docs => doc.value :: itemValues docs

/-- The values that are kept of what an object binds. -/
def bindingValues : List (String × Document) → List (String × Value)
  | [] => []
  | (key, doc) :: rest => (key, doc.value) :: bindingValues rest

end

/-! ## Spelling -/

mutual

/-- The characters start with the spelling of a document, and the others are left. -/
inductive SpellsDocument : List Char → Document → List Char → Prop
  | emptyArray {cs rest : List Char} (hend : skipBlanks cs = ']' :: rest) :
      SpellsDocument ('[' :: cs) (.array []) rest
  | array {cs rest : List Char} {items : List Document}
      (hstart : (skipBlanks cs).head? ≠ some ']')
      (hitems : SpellsDocumentItems (skipBlanks cs) items rest) :
      SpellsDocument ('[' :: cs) (.array items) rest
  | emptyObject {cs rest : List Char} (hend : skipBlanks cs = '}' :: rest) :
      SpellsDocument ('{' :: cs) (.object []) rest
  | object {cs rest : List Char} {bindings : List (String × Document)}
      (hstart : (skipBlanks cs).head? ≠ some '}')
      (hbindings : SpellsDocumentBindings (skipBlanks cs) bindings rest) :
      SpellsDocument ('{' :: cs) (.object bindings) rest
  /-- A number is spelled by its literal, whether or not the literal can be read. -/
  | number {rest : List Char} (l : NumberLiteral) (hrest : EndsNumber rest) :
      SpellsDocument (l.chars ++ rest) (.number l) rest
  /-- A word or a text is read in one step. -/
  | leaf {c : Char} {cs rest : List Char} {doc : Document} (harray : c ≠ '[') (hobject : c ≠ '{')
      (hnumber : ∀ l, doc ≠ .number l) (hread : readValue 1 0 (c :: cs) = .ok (doc.value, rest)) :
      SpellsDocument (c :: cs) doc rest

/-- The characters start with the items of an array and the closing bracket. -/
inductive SpellsDocumentItems : List Char → List Document → List Char → Prop
  | last {cs mid rest : List Char} {doc : Document} (hdoc : SpellsDocument cs doc mid)
      (hmid : skipBlanks mid = ']' :: rest) :
      SpellsDocumentItems cs [doc] rest
  | next {cs mid more rest : List Char} {doc : Document} {docs : List Document}
      (hdoc : SpellsDocument cs doc mid) (hmid : skipBlanks mid = ',' :: more)
      (hdocs : SpellsDocumentItems (skipBlanks more) docs rest) :
      SpellsDocumentItems cs (doc :: docs) rest

/-- The characters start with the bindings of an object and the closing brace. -/
inductive SpellsDocumentBindings : List Char → List (String × Document) → List Char → Prop
  | last {cs behindKey start mid rest : List Char} {key : String} {doc : Document}
      (hkey : readString cs = .ok (key, behindKey)) (hcolon : readColon behindKey = .ok start)
      (hdoc : SpellsDocument start doc mid) (hmid : skipBlanks mid = '}' :: rest) :
      SpellsDocumentBindings ('"' :: cs) [(key, doc)] rest
  | next {cs behindKey start mid more rest : List Char} {key : String} {doc : Document}
      {bindings : List (String × Document)} (hkey : readString cs = .ok (key, behindKey))
      (hcolon : readColon behindKey = .ok start) (hdoc : SpellsDocument start doc mid)
      (hmid : skipBlanks mid = ',' :: more)
      (hbindings : SpellsDocumentBindings (skipBlanks more) bindings rest) :
      SpellsDocumentBindings ('"' :: cs) ((key, doc) :: bindings) rest

end

/-- A text spells a document, with blanks around it. -/
def Document.IsSpelledBy (doc : Document) (text : String) : Prop :=
  ∃ rest, SpellsDocument (skipBlanks text.toList) doc rest ∧ skipBlanks rest = []

/-- Where a number is spelled, no value is spelled but what is kept of it. -/
lemma SpellsAtMost.number {rest : List Char} (l : NumberLiteral) (hrest : EndsNumber rest) :
    SpellsAtMost SpellsValue (l.chars ++ rest) (.number l.stored) rest := by
  have hread := readValue_literal hrest l 0 0
  obtain ⟨c, cs, hcs, -, hc⟩ := exists_chars_eq_cons l
  simp only [List.mem_cons, not_or] at hc
  rw [hcs, List.cons_append] at hread ⊢
  refine .leaf hc.1 hc.2.1 fun v' rest' hread' => ?_
  rw [hread] at hread'
  split_ifs at hread'
  obtain ⟨rfl, rfl⟩ := Prod.mk.inj (Except.ok.inj hread')
  exact ⟨rfl, rfl⟩

mutual

/-- **Where a document is spelled, no value is spelled but what is kept of the document.**

**Proof sketch.** Induction on the spelling of the document, together with those of items and
bindings: in each case only one way to spell a value remains. -/
theorem SpellsDocument.spellsAtMost {cs rest : List Char} {doc : Document}
    (h : SpellsDocument cs doc rest) : SpellsAtMost SpellsValue cs doc.value rest := by
  cases h with
  | emptyArray hend => exact .emptyArray hend
  | array hstart hitems => exact .array hstart hitems.spellsAtMost
  | emptyObject hend => exact .emptyObject hend
  | object hstart hbindings => exact .object hstart hbindings.spellsAtMost
  | number l hrest => exact .number l hrest
  | leaf harray hobject _ hread =>
    exact .leaf harray hobject fun _ _ hread' =>
      Prod.mk.inj (Except.ok.inj (hread'.symm.trans hread))

/-- Where items are spelled, no values are spelled but what is kept of them. -/
theorem SpellsDocumentItems.spellsAtMost {cs rest : List Char} {docs : List Document}
    (h : SpellsDocumentItems cs docs rest) :
    SpellsAtMost SpellsItems cs (itemValues docs) rest := by
  cases h with
  | last hdoc hmid => exact .lastItem hdoc.spellsAtMost hmid
  | next hdoc hmid hdocs => exact .nextItem hdoc.spellsAtMost hmid hdocs.spellsAtMost

/-- Where bindings are spelled, no bindings are spelled but what is kept of them. -/
theorem SpellsDocumentBindings.spellsAtMost {cs rest : List Char}
    {bindings : List (String × Document)} (h : SpellsDocumentBindings cs bindings rest) :
    SpellsAtMost SpellsBindings cs (bindingValues bindings) rest := by
  cases h with
  | last hkey hcolon hdoc hmid => exact .lastBinding hkey hcolon hdoc.spellsAtMost hmid
  | next hkey hcolon hdoc hmid hbindings =>
    exact .nextBinding hkey hcolon hdoc.spellsAtMost hmid hbindings.spellsAtMost

end

/-- A text that spells a document spells no value but what is kept of it. -/
lemma Document.IsSpelledBy.eq_value {doc : Document} {text : String} {v : Value}
    (h : doc.IsSpelledBy text) (hv : Spells text v) : v = doc.value := by
  obtain ⟨rest, hdoc, -⟩ := h
  obtain ⟨rest', hvalue, -⟩ := hv
  exact (hdoc.spellsAtMost v rest' hvalue).1

/-! ## Every text that is read spells a document -/

/-- What does not continue a value, behind blanks, does not continue a number either. -/
lemma endsNumber_of_skipBlanks {cs : List Char}
    (h : ∀ c ∈ (skipBlanks cs).head?, c = ',' ∨ c = ']' ∨ c = '}') : EndsNumber cs := by
  intro c hc
  obtain ⟨cs, rfl⟩ : ∃ cs', cs = c :: cs' := List.head?_eq_some_iff.mp hc
  cases hblank : isBlank c with
  | true =>
    have hdigit : ∀ d : Fin 10, isBlank (Nat.digitChar d) = false := by decide
    refine ⟨Option.eq_none_iff_forall_ne_some.mpr fun n hn => ?_, ?_, ?_, ?_⟩
    · obtain ⟨d, -, rfl⟩ := exists_eq_digitChar hn
      rw [hdigit] at hblank
      cases hblank
    all_goals
      rintro rfl
      cases hblank
  | false =>
    rw [skipBlanks_cons hblank] at h
    rcases h c rfl with rfl | rfl | rfl <;> decide

/-- What is read in one step is a number, or a word or text. -/
lemma readValue_leaf_cases {c : Char} {cs rest : List Char} {v : Value} (harray : c ≠ '[')
    (hobject : c ≠ '{') (h : readValue 1 0 (c :: cs) = .ok (v, rest)) :
    (∃ n, readNumber (c :: cs) = .ok (n, rest)) ∨
      ∃ doc : Document, doc.value = v ∧ ∀ l, doc ≠ .number l := by
  by_cases htext : c = '"'
  · subst htext
    obtain ⟨s, rfl⟩ := exists_of_bind_eq_ok h
    exact .inr ⟨.text s.1, rfl, nofun⟩
  by_cases htrue : c = 't'
  · subst htrue
    obtain ⟨s, rfl⟩ := exists_of_bind_eq_ok h
    exact .inr ⟨.boolean true, rfl, nofun⟩
  by_cases hfalse : c = 'f'
  · subst hfalse
    obtain ⟨s, rfl⟩ := exists_of_bind_eq_ok h
    exact .inr ⟨.boolean false, rfl, nofun⟩
  by_cases hnull : c = 'n'
  · subst hnull
    obtain ⟨s, rfl⟩ := exists_of_bind_eq_ok h
    exact .inr ⟨.null, rfl, nofun⟩
  · rw [readValue_number harray hobject htext htrue hfalse hnull] at h
    obtain ⟨⟨n, left⟩, hread, hpure⟩ := bind_eq_ok_iff.mp h
    obtain rfl : left = rest := congrArg Prod.snd (Except.ok.inj hpure)
    exact .inl ⟨n, hread⟩

mutual

/-- **Where a value is spelled and a number would end, a document is spelled.** -/
lemma SpellsValue.exists_document {cs rest : List Char} {v : Value} (h : SpellsValue cs v rest)
    (hrest : EndsNumber rest) : ∃ doc, SpellsDocument cs doc rest := by
  cases h with
  | emptyArray hend => exact ⟨_, .emptyArray hend⟩
  | array hstart hitems =>
    obtain ⟨docs, hdocs⟩ := hitems.exists_documents
    exact ⟨_, .array hstart hdocs⟩
  | emptyObject hend => exact ⟨_, .emptyObject hend⟩
  | object hstart hbindings =>
    obtain ⟨docs, hdocs⟩ := hbindings.exists_documents
    exact ⟨_, .object hstart hdocs⟩
  | leaf harray hobject hread =>
    rcases readValue_leaf_cases harray hobject hread with ⟨n, hnumber⟩ | ⟨doc, rfl, hnumber⟩
    · obtain ⟨l, hl⟩ := exists_literal_of_readNumber hnumber
      exact ⟨.number l, hl ▸ SpellsDocument.number l hrest⟩
    · exact ⟨doc, .leaf harray hobject hnumber hread⟩

/-- Where items are spelled, documents are spelled as items. -/
lemma SpellsItems.exists_documents {cs rest : List Char} {vs : List Value}
    (h : SpellsItems cs vs rest) : ∃ docs, SpellsDocumentItems cs docs rest := by
  cases h with
  | last hv hmid =>
    obtain ⟨doc, hdoc⟩ := hv.exists_document (endsNumber_of_skipBlanks (by simp [hmid]))
    exact ⟨_, .last hdoc hmid⟩
  | next hv hmid hvs =>
    obtain ⟨doc, hdoc⟩ := hv.exists_document (endsNumber_of_skipBlanks (by simp [hmid]))
    obtain ⟨docs, hdocs⟩ := hvs.exists_documents
    exact ⟨_, .next hdoc hmid hdocs⟩

/-- Where bindings are spelled, documents are spelled as what they bind. -/
lemma SpellsBindings.exists_documents {cs rest : List Char} {bindings : List (String × Value)}
    (h : SpellsBindings cs bindings rest) : ∃ docs, SpellsDocumentBindings cs docs rest := by
  cases h with
  | last hkey hcolon hv hmid =>
    obtain ⟨doc, hdoc⟩ := hv.exists_document (endsNumber_of_skipBlanks (by simp [hmid]))
    exact ⟨_, .last hkey hcolon hdoc hmid⟩
  | next hkey hcolon hv hmid hbindings =>
    obtain ⟨doc, hdoc⟩ := hv.exists_document (endsNumber_of_skipBlanks (by simp [hmid]))
    obtain ⟨docs, hdocs⟩ := hbindings.exists_documents
    exact ⟨_, .next hkey hcolon hdoc hmid hdocs⟩

end

/-- **Every text that is read spells a document.** -/
theorem exists_isSpelledBy_of_parse {text : String} {v : Value} (h : parse text = .ok v) :
    ∃ doc : Document, doc.IsSpelledBy text := by
  obtain ⟨w, ⟨rest, hw, hrest⟩, -, -⟩ := exists_spells_of_parse h
  obtain ⟨doc, hdoc⟩ := hw.exists_document (endsNumber_of_skipBlanks (by simp [hrest]))
  exact ⟨doc, rest, hdoc, hrest⟩

/-! ## Paths -/

/-- A step from a value into it. -/
inductive Step where
  /-- To what a key is bound to. -/
  | key (name : String)
  /-- To an item of an array. -/
  | item (index : Nat)
  deriving DecidableEq, Repr

/-- Where a step leads to in a document: to the last binding of a key. -/
def Document.step? : Document → Step → Option Document
  | .object bindings, .key name => bindings.reverse.lookup name
  | .array items, .item index => items[index]?
  | _, _ => none

/-- Where a step leads to in a value with all bindings: to the last binding of a key. -/
def Value.lastStep? : Value → Step → Option Value
  | v, .key name => v.last? name
  | .array items, .item index => items[index]?
  | _, _ => none

/-- Where a step leads to in a value. -/
def Value.step? : Value → Step → Option Value
  | .object members, .key name => member? name members
  | .array items, .item index => items[index]?
  | _, _ => none

/-- The values that are kept of items, one by one. -/
lemma itemValues_eq_map (docs : List Document) : itemValues docs = docs.map Document.value := by
  induction docs with
  | nil => rfl
  | cons doc docs ih => rw [itemValues, List.map_cons, ih]

/-- What is bound to a key in the values that are kept of bindings, from the last one on. -/
lemma lookup_reverse_bindingValues (key : String) (bindings : List (String × Document)) :
    (bindingValues bindings).reverse.lookup key =
      (bindings.reverse.lookup key).map Document.value := by
  induction bindings with
  | nil => rfl
  | cons b bs ih =>
    obtain ⟨k, doc⟩ := b
    rw [bindingValues, List.reverse_cons, List.reverse_cons, List.lookup_append,
      List.lookup_append, ih]
    by_cases h : key = k
    · cases bs.reverse.lookup key <;> simp [h]
    · cases bs.reverse.lookup key <;> simp [List.lookup_cons, beq_false_of_ne h]

/-- The items of an array, each of them merged. -/
lemma mergedItems_eq_map (items : List Value) : mergedItems items = items.map Value.merged := by
  induction items with
  | nil => rfl
  | cons v vs ih => rw [mergedItems, List.map_cons, ih]

/-- A step leads to the same place in a document and in what is kept of it. -/
lemma Document.lastStep?_value (doc : Document) (step : Step) :
    doc.value.lastStep? step = (doc.step? step).map Document.value := by
  cases step with
  | key name =>
    cases doc with
    | object bindings => exact lookup_reverse_bindingValues name bindings
    | _ => rfl
  | item index =>
    cases doc with
    | array items =>
      change (itemValues items)[index]? = (items[index]?).map Document.value
      rw [itemValues_eq_map, List.getElem?_map]
    | _ => rfl

/-- A step leads to the same place in a value and in the merged value. -/
lemma Value.step?_merged (v : Value) (step : Step) :
    v.merged.step? step = (v.lastStep? step).map Value.merged := by
  cases step with
  | key name =>
    cases v with
    | object bindings => exact member?_merged name bindings
    | _ => rfl
  | item index =>
    cases v with
    | array items =>
      change (mergedItems items)[index]? = (items[index]?).map Value.merged
      rw [mergedItems_eq_map, List.getElem?_map]
    | _ => rfl

/-- If each step leads to the same place, so does each path. -/
lemma foldlM_map {α β : Type} {f : α → β} {step : α → Step → Option α}
    {step' : β → Step → Option β} (h : ∀ a s, step' (f a) s = (step a s).map f) (path : List Step)
    (a : α) : path.foldlM step' (f a) = (path.foldlM step a).map f := by
  induction path generalizing a with
  | nil => rfl
  | cons s path ih =>
    rw [List.foldlM_cons, List.foldlM_cons, h]
    cases step a s with
    | none => rfl
    | some b => exact ih b

/-- Where a path leads to in a document. -/
def Document.follow? (path : List Step) (doc : Document) : Option Document :=
  path.foldlM Document.step? doc

/-- Where a path leads to in a value with all bindings. -/
def Value.lastFollow? (path : List Step) (v : Value) : Option Value :=
  path.foldlM Value.lastStep? v

/-- Where a path leads to in a value. -/
def Value.follow? (path : List Step) (v : Value) : Option Value :=
  path.foldlM Value.step? v

/-- A path leads to the same place in a document and in what is kept of it. -/
lemma Document.lastFollow?_value (path : List Step) (doc : Document) :
    doc.value.lastFollow? path = (doc.follow? path).map Document.value :=
  foldlM_map Document.lastStep?_value path doc

/-- A path leads to the same place in a value and in the merged value. -/
lemma Value.follow?_merged (path : List Step) (v : Value) :
    v.merged.follow? path = (v.lastFollow? path).map Value.merged :=
  foldlM_map Value.step?_merged path v

/-- **What is read from a text** that spells a document is what is kept of the document, merged, so
that every path leads to the same place in both. -/
theorem Document.IsSpelledBy.follow?_of_parse {doc : Document} {text : String} {v : Value}
    (h : doc.IsSpelledBy text) (hv : parse text = .ok v) (path : List Step) :
    v.follow? path = ((doc.follow? path).map Document.value).map Value.merged := by
  obtain ⟨w, hw, -, rfl⟩ := exists_spells_of_parse hv
  obtain rfl := h.eq_value hw
  rw [Value.follow?_merged, Document.lastFollow?_value]

end RegisterFile.Json

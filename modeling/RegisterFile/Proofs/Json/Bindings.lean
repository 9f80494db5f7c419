import RegisterFile.Proofs.Json.RoundTrip

set_option autoImplicit false

/-!
# The bindings in a JSON text

A JSON text may bind a key of an object more than once. The value that is read from the text keeps
one binding for each key; here every text has one value that keeps them all, and the value that is
read binds each key to what the last of its bindings says.

## Main definitions

* `Json.Value.merged` - the value with one binding for each key.
* `Json.Value.last?` - the last value that a key is bound to.
* `Json.SpellsValue`, `Json.Spells` - the value that characters and a text spell, with all bindings.
* `Json.SpellsAtMost`, `Json.SpellsOnly` - characters spell nothing else, whether or not they spell
  this.

## Main results

* `Json.member?_merged` - what a key is bound to is the last value that it is bound to.
* `Json.exists_spells_of_parse` - what is read from a text is what the text spells, merged.
-/

namespace RegisterFile.Json

/-! ## Merging bindings -/

mutual

/-- The value that binds each key of an object once, where it is bound first and to what it is bound
last. -/
def Value.merged : Value → Value
  | .null => .null
  | .boolean b => .boolean b
  | .number n => .number n
  | .text s => .text s
  | .array items => .array (mergedItems items)
  | .object bindings => .object (mergedMembers [] bindings)

/-- The items of an array, each of them merged. -/
def mergedItems : List Value → List Value
  | [] => []
  | v :: vs => v.merged :: mergedItems vs

/-- The given members with some further bindings. -/
def mergedMembers (members : Members) : List (String × Value) → Members
  | [] => members
  | (key, v) :: rest => mergedMembers (setMember key v.merged members) rest

end

/-- The last value that a key is bound to, if the value is an object that binds it. -/
def Value.last? (key : String) : Value → Option Value
  | .object bindings => bindings.reverse.lookup key
  | _ => none

/-- A key that is bound again is bound to its new value, and the others are as before. -/
lemma member?_setMember (key k : String) (v : Value) (members : Members) :
    member? key (setMember k v members) = if key = k then some v else member? key members := by
  unfold member?
  induction members with
  | nil =>
    by_cases h : key = k
    · simp [setMember, h]
    · simp [setMember, List.lookup_cons, beq_false_of_ne h, h]
  | cons m ms ih =>
    obtain ⟨k', v'⟩ := m
    unfold setMember
    by_cases hk : k' = k
    · rw [if_pos hk, hk]
      by_cases h : key = k
      · simp [h]
      · simp [List.lookup_cons, beq_false_of_ne h, h]
    · rw [if_neg hk]
      by_cases h : key = k'
      · simp [h, hk]
      · simp [List.lookup_cons, beq_false_of_ne h, ih]

/-- What a key is bound to behind some further bindings: what the last of them says, if one does. -/
lemma member?_mergedMembers (key : String) (members : Members)
    (bindings : List (String × Value)) :
    member? key (mergedMembers members bindings) =
      ((bindings.reverse.lookup key).map Value.merged).or (member? key members) := by
  induction bindings generalizing members with
  | nil => rfl
  | cons b bs ih =>
    obtain ⟨k, v⟩ := b
    rw [mergedMembers, ih, member?_setMember, List.reverse_cons, List.lookup_append]
    cases hlast : bs.reverse.lookup key with
    | some w => rfl
    | none =>
      by_cases h : key = k
      · simp [h]
      · simp [List.lookup_cons, beq_false_of_ne h, h]

/-- **What a key is bound to is the last value that it is bound to.** -/
theorem member?_merged (key : String) (bindings : List (String × Value)) :
    member? key (mergedMembers [] bindings) =
      ((Value.object bindings).last? key).map Value.merged := by
  rw [member?_mergedMembers]
  exact Option.or_none

/-! ## Spelling -/

mutual

/-- The characters start with the spelling of a value, whose objects have all the bindings that are
spelled, and the others are left. -/
inductive SpellsValue : List Char → Value → List Char → Prop
  | emptyArray {cs rest : List Char} (hend : skipBlanks cs = ']' :: rest) :
      SpellsValue ('[' :: cs) (.array []) rest
  | array {cs rest : List Char} {items : List Value} (hstart : (skipBlanks cs).head? ≠ some ']')
      (hitems : SpellsItems (skipBlanks cs) items rest) :
      SpellsValue ('[' :: cs) (.array items) rest
  | emptyObject {cs rest : List Char} (hend : skipBlanks cs = '}' :: rest) :
      SpellsValue ('{' :: cs) (.object []) rest
  | object {cs rest : List Char} {bindings : List (String × Value)}
      (hstart : (skipBlanks cs).head? ≠ some '}')
      (hbindings : SpellsBindings (skipBlanks cs) bindings rest) :
      SpellsValue ('{' :: cs) (.object bindings) rest
  /-- A value that is neither an array nor an object is read in one step. -/
  | leaf {c : Char} {cs rest : List Char} {v : Value} (harray : c ≠ '[') (hobject : c ≠ '{')
      (hread : readValue 1 0 (c :: cs) = .ok (v, rest)) :
      SpellsValue (c :: cs) v rest

/-- The characters start with the items of an array and the closing bracket. -/
inductive SpellsItems : List Char → List Value → List Char → Prop
  | last {cs mid rest : List Char} {v : Value} (hv : SpellsValue cs v mid)
      (hmid : skipBlanks mid = ']' :: rest) :
      SpellsItems cs [v] rest
  | next {cs mid more rest : List Char} {v : Value} {vs : List Value} (hv : SpellsValue cs v mid)
      (hmid : skipBlanks mid = ',' :: more) (hvs : SpellsItems (skipBlanks more) vs rest) :
      SpellsItems cs (v :: vs) rest

/-- The characters start with the bindings of an object and the closing brace. -/
inductive SpellsBindings : List Char → List (String × Value) → List Char → Prop
  | last {cs behindKey value mid rest : List Char} {key : String} {v : Value}
      (hkey : readString cs = .ok (key, behindKey)) (hcolon : readColon behindKey = .ok value)
      (hv : SpellsValue value v mid) (hmid : skipBlanks mid = '}' :: rest) :
      SpellsBindings ('"' :: cs) [(key, v)] rest
  | next {cs behindKey value mid more rest : List Char} {key : String} {v : Value}
      {bindings : List (String × Value)} (hkey : readString cs = .ok (key, behindKey))
      (hcolon : readColon behindKey = .ok value) (hv : SpellsValue value v mid)
      (hmid : skipBlanks mid = ',' :: more)
      (hbindings : SpellsBindings (skipBlanks more) bindings rest) :
      SpellsBindings ('"' :: cs) ((key, v) :: bindings) rest

end

/-- A text spells a value with all bindings of its objects, with blanks around it. -/
def Spells (text : String) (v : Value) : Prop :=
  ∃ rest, SpellsValue (skipBlanks text.toList) v rest ∧ skipBlanks rest = []

/-! ## Reading in steps -/

section Steps

variable {steps room : Nat} {cs rest : List Char}

/-- A value that starts with no other character is read as a number. -/
lemma readValue_number {c : Char} (harray : c ≠ '[') (hobject : c ≠ '{') (htext : c ≠ '"')
    (htrue : c ≠ 't') (hfalse : c ≠ 'f') (hnull : c ≠ 'n') :
    readValue (steps + 1) room (c :: cs) =
      readNumber (c :: cs) >>= fun p => pure (.number p.1, p.2) := by
  unfold readValue
  split
  · contradiction
  · contradiction
  next heq => exact absurd (List.cons.inj heq).1 harray
  next heq => exact absurd (List.cons.inj heq).1 hobject
  next heq => exact absurd (List.cons.inj heq).1 htext
  next heq => exact absurd (List.cons.inj heq).1 htrue
  next heq => exact absurd (List.cons.inj heq).1 hfalse
  next heq => exact absurd (List.cons.inj heq).1 hnull
  next heq =>
    obtain ⟨rfl, rfl⟩ := List.cons.inj heq
    rfl

/-- A value that one reader reads is made from the reader's result. -/
lemma exists_of_bind_eq_ok {α : Type} {x : Except Fault α} {f : α → Value × List Char}
    {v : Value} (h : (x >>= fun a => pure (f a)) = .ok (v, rest)) : ∃ a, v = (f a).1 := by
  cases x with
  | error fault => cases h
  | ok a => exact ⟨a, congrArg Prod.fst (Except.ok.inj h).symm⟩

/-- A value that is neither an array nor an object is read in one step, and merging it changes
nothing. -/
lemma readValue_leaf {c : Char} {v : Value} (harray : c ≠ '[') (hobject : c ≠ '{')
    (h : readValue (steps + 1) room (c :: cs) = .ok (v, rest)) :
    readValue 1 0 (c :: cs) = .ok (v, rest) ∧ v.merged = v := by
  by_cases htext : c = '"'
  · subst htext
    obtain ⟨s, rfl⟩ := exists_of_bind_eq_ok h
    exact ⟨h, rfl⟩
  by_cases htrue : c = 't'
  · subst htrue
    obtain ⟨s, rfl⟩ := exists_of_bind_eq_ok h
    exact ⟨h, rfl⟩
  by_cases hfalse : c = 'f'
  · subst hfalse
    obtain ⟨s, rfl⟩ := exists_of_bind_eq_ok h
    exact ⟨h, rfl⟩
  by_cases hnull : c = 'n'
  · subst hnull
    obtain ⟨s, rfl⟩ := exists_of_bind_eq_ok h
    exact ⟨h, rfl⟩
  · rw [readValue_number harray hobject htext htrue hfalse hnull] at h ⊢
    obtain ⟨n, rfl⟩ := exists_of_bind_eq_ok h
    exact ⟨h, rfl⟩

/-- What an array is read from. -/
lemma readValue_bracket {v : Value} (h : readValue (steps + 1) room ('[' :: cs) = .ok (v, rest)) :
    (skipBlanks cs = ']' :: rest ∧ v = .array []) ∨
      ∃ room' items, (skipBlanks cs).head? ≠ some ']' ∧
        readItems steps room' (skipBlanks cs) = .ok (items, rest) ∧ v = .array items := by
  cases hstart : skipBlanks cs with
  | nil => simp [readValue, hstart] at h
  | cons c first =>
    by_cases hc : c = ']'
    · subst hc
      obtain ⟨rfl, rfl⟩ : .array [] = v ∧ first = rest := by simpa [readValue, hstart] using h
      exact .inl ⟨rfl, rfl⟩
    · cases room with
      | zero => simp [readValue, hstart, hc] at h
      | succ room =>
        cases hitems : readItems steps room (c :: first) with
        | error fault => simp [readValue, hstart, hc, hitems] at h
        | ok p =>
          obtain ⟨items, left⟩ := p
          rw [readValue_array hstart hc hitems] at h
          cases h
          exact .inr ⟨room, items, by simpa using hc, hitems, rfl⟩

/-- What an object is read from. -/
lemma readValue_brace {v : Value} (h : readValue (steps + 1) room ('{' :: cs) = .ok (v, rest)) :
    (skipBlanks cs = '}' :: rest ∧ v = .object []) ∨
      ∃ room' members, (skipBlanks cs).head? ≠ some '}' ∧
        readMembers steps room' [] (skipBlanks cs) = .ok (members, rest) ∧ v = .object members := by
  cases hstart : skipBlanks cs with
  | nil => simp [readValue, hstart] at h
  | cons c first =>
    by_cases hc : c = '}'
    · subst hc
      obtain ⟨rfl, rfl⟩ : .object [] = v ∧ first = rest := by simpa [readValue, hstart] using h
      exact .inl ⟨rfl, rfl⟩
    · cases room with
      | zero => simp [readValue, hstart, hc] at h
      | succ room =>
        cases hmembers : readMembers steps room [] (c :: first) with
        | error fault => simp [readValue, hstart, hc, hmembers] at h
        | ok p =>
          obtain ⟨members, left⟩ := p
          rw [readValue_object hstart hc hmembers] at h
          cases h
          exact .inr ⟨room, members, by simpa using hc, hmembers, rfl⟩

/-- What the items of an array are read from. -/
lemma readItems_eq_ok {vs : List Value} (h : readItems (steps + 1) room cs = .ok (vs, rest)) :
    ∃ v mid, readValue steps room cs = .ok (v, mid) ∧
      (skipBlanks mid = ']' :: rest ∧ vs = [v] ∨
        ∃ more others, skipBlanks mid = ',' :: more ∧
          readItems steps room (skipBlanks more) = .ok (others, rest) ∧ vs = v :: others) := by
  unfold readItems at h
  cases hv : readValue steps room cs with
  | error fault => simp [hv] at h
  | ok p =>
    obtain ⟨v, mid⟩ := p
    refine ⟨v, mid, rfl, ?_⟩
    simp only [hv, ok_bind] at h
    split at h
    · cases h
    next more hmid =>
      cases hothers : readItems steps room (skipBlanks more) with
      | error fault => simp [hothers] at h
      | ok q =>
        rw [hothers] at h
        cases h
        exact .inr ⟨more, q.1, hmid, hothers, rfl⟩
    next hmid =>
      cases h
      exact .inl ⟨hmid, rfl⟩
    · cases h

/-- What the members of an object are read from. -/
lemma readMembers_eq_ok {members members' : Members}
    (h : readMembers (steps + 1) room members cs = .ok (members', rest)) :
    ∃ cs' key behindKey value v mid, cs = '"' :: cs' ∧ readString cs' = .ok (key, behindKey) ∧
      readColon behindKey = .ok value ∧ readValue steps room value = .ok (v, mid) ∧
      (skipBlanks mid = '}' :: rest ∧ members' = setMember key v members ∨
        ∃ more, skipBlanks mid = ',' :: more ∧
          readMembers steps room (setMember key v members) (skipBlanks more) =
            .ok (members', rest)) := by
  unfold readMembers at h
  cases cs with
  | nil => cases h
  | cons c cs =>
    by_cases hc : c = '"'
    · subst hc
      have hquote : readWord ['"'] ('"' :: cs) = .ok cs := rfl
      cases hkey : readString cs with
      | error fault => simp [hquote, hkey] at h
      | ok p =>
        obtain ⟨key, behindKey⟩ := p
        cases hcolon : readColon behindKey with
        | error fault => simp [hquote, hkey, hcolon] at h
        | ok value =>
          cases hv : readValue steps room value with
          | error fault => simp [hquote, hkey, hcolon, hv] at h
          | ok q =>
            obtain ⟨v, mid⟩ := q
            refine ⟨cs, key, behindKey, value, v, mid, rfl, hkey, hcolon, hv, ?_⟩
            simp only [hquote, hkey, hcolon, hv, ok_bind] at h
            split at h
            · cases h
            next more hmid => exact .inr ⟨more, hmid, h⟩
            next hmid =>
              cases h
              exact .inl ⟨hmid, rfl⟩
            · cases h
    · simp [readWord, hc] at h

end Steps

/-! ## One spelling -/

/-- The characters start with the spelling of no other thing, and in no other way. -/
def SpellsAtMost {α : Type} (spells : List Char → α → List Char → Prop) (cs : List Char) (a : α)
    (rest : List Char) : Prop :=
  ∀ a' rest', spells cs a' rest' → a' = a ∧ rest' = rest

/-- The characters start with the spelling of one thing only, in one way. -/
def SpellsOnly {α : Type} (spells : List Char → α → List Char → Prop) (cs : List Char) (a : α)
    (rest : List Char) : Prop :=
  spells cs a rest ∧ ∀ a' rest', spells cs a' rest' → a' = a ∧ rest' = rest

/-- What is spelled and excludes all others is the only thing spelled. -/
lemma SpellsAtMost.only {α : Type} {spells : List Char → α → List Char → Prop}
    {cs rest : List Char} {a : α} (h : SpellsAtMost spells cs a rest) (ha : spells cs a rest) :
    SpellsOnly spells cs a rest :=
  ⟨ha, h⟩

section SpellsAtMost

variable {cs mid more rest : List Char}

/-- Between brackets nothing is spelled but an array without items. -/
lemma SpellsAtMost.emptyArray (hend : skipBlanks cs = ']' :: rest) :
    SpellsAtMost SpellsValue ('[' :: cs) (.array []) rest := by
  intro v' rest' h
  cases h with
  | emptyArray hend' => exact ⟨rfl, (List.cons.inj (hend'.symm.trans hend)).2⟩
  | array hstart _ => exact absurd (by rw [hend]; rfl) hstart
  | leaf harray _ _ => exact absurd rfl harray

/-- An array is spelled by its items only. -/
lemma SpellsAtMost.array {items : List Value} (hstart : (skipBlanks cs).head? ≠ some ']')
    (hitems : SpellsAtMost SpellsItems (skipBlanks cs) items rest) :
    SpellsAtMost SpellsValue ('[' :: cs) (.array items) rest := by
  intro v' rest' h
  cases h with
  | emptyArray hend => exact absurd (by rw [hend]; rfl) hstart
  | array _ hitems' =>
    obtain ⟨rfl, rfl⟩ := hitems _ _ hitems'
    exact ⟨rfl, rfl⟩
  | leaf harray _ _ => exact absurd rfl harray

/-- Between braces nothing is spelled but an object without members. -/
lemma SpellsAtMost.emptyObject (hend : skipBlanks cs = '}' :: rest) :
    SpellsAtMost SpellsValue ('{' :: cs) (.object []) rest := by
  intro v' rest' h
  cases h with
  | emptyObject hend' => exact ⟨rfl, (List.cons.inj (hend'.symm.trans hend)).2⟩
  | object hstart _ => exact absurd (by rw [hend]; rfl) hstart
  | leaf _ hobject _ => exact absurd rfl hobject

/-- An object is spelled by its bindings only. -/
lemma SpellsAtMost.object {bindings : List (String × Value)}
    (hstart : (skipBlanks cs).head? ≠ some '}')
    (hbindings : SpellsAtMost SpellsBindings (skipBlanks cs) bindings rest) :
    SpellsAtMost SpellsValue ('{' :: cs) (.object bindings) rest := by
  intro v' rest' h
  cases h with
  | emptyObject hend => exact absurd (by rw [hend]; rfl) hstart
  | object _ hbindings' =>
    obtain ⟨rfl, rfl⟩ := hbindings _ _ hbindings'
    exact ⟨rfl, rfl⟩
  | leaf _ hobject _ => exact absurd rfl hobject

/-- A value that is neither an array nor an object is spelled by what is read as it only. -/
lemma SpellsAtMost.leaf {c : Char} {v : Value} (harray : c ≠ '[') (hobject : c ≠ '{')
    (hread : ∀ v' rest', readValue 1 0 (c :: cs) = .ok (v', rest') → v' = v ∧ rest' = rest) :
    SpellsAtMost SpellsValue (c :: cs) v rest := by
  intro v' rest' h
  cases h with
  | emptyArray _ => exact absurd rfl harray
  | array _ _ => exact absurd rfl harray
  | emptyObject _ => exact absurd rfl hobject
  | object _ _ => exact absurd rfl hobject
  | leaf _ _ hread' => exact hread _ _ hread'

/-- The last item of an array is followed by the bracket only. -/
lemma SpellsAtMost.lastItem {v : Value} (hv : SpellsAtMost SpellsValue cs v mid)
    (hmid : skipBlanks mid = ']' :: rest) : SpellsAtMost SpellsItems cs [v] rest := by
  intro vs' rest' h
  cases h with
  | last hv' hmid' =>
    obtain ⟨rfl, rfl⟩ := hv _ _ hv'
    exact ⟨rfl, (List.cons.inj (hmid'.symm.trans hmid)).2⟩
  | next hv' hmid' _ =>
    obtain ⟨rfl, rfl⟩ := hv _ _ hv'
    exact absurd (List.cons.inj (hmid'.symm.trans hmid)).1 (by decide)

/-- An item of an array is followed by the next items only. -/
lemma SpellsAtMost.nextItem {v : Value} {vs : List Value} (hv : SpellsAtMost SpellsValue cs v mid)
    (hmid : skipBlanks mid = ',' :: more)
    (hvs : SpellsAtMost SpellsItems (skipBlanks more) vs rest) :
    SpellsAtMost SpellsItems cs (v :: vs) rest := by
  intro vs' rest' h
  cases h with
  | last hv' hmid' =>
    obtain ⟨rfl, rfl⟩ := hv _ _ hv'
    exact absurd (List.cons.inj (hmid'.symm.trans hmid)).1 (by decide)
  | next hv' hmid' hvs' =>
    obtain ⟨rfl, rfl⟩ := hv _ _ hv'
    obtain rfl := (List.cons.inj (hmid'.symm.trans hmid)).2
    obtain ⟨rfl, rfl⟩ := hvs _ _ hvs'
    exact ⟨rfl, rfl⟩

variable {behindKey value : List Char} {key : String} {v : Value}

/-- The last binding of an object is followed by the brace only. -/
lemma SpellsAtMost.lastBinding (hkey : readString cs = .ok (key, behindKey))
    (hcolon : readColon behindKey = .ok value) (hv : SpellsAtMost SpellsValue value v mid)
    (hmid : skipBlanks mid = '}' :: rest) :
    SpellsAtMost SpellsBindings ('"' :: cs) [(key, v)] rest := by
  intro bs' rest' h
  cases h with
  | last hkey' hcolon' hv' hmid' =>
    obtain ⟨rfl, rfl⟩ := Prod.mk.inj (Except.ok.inj (hkey'.symm.trans hkey))
    obtain rfl := Except.ok.inj (hcolon'.symm.trans hcolon)
    obtain ⟨rfl, rfl⟩ := hv _ _ hv'
    exact ⟨rfl, (List.cons.inj (hmid'.symm.trans hmid)).2⟩
  | next hkey' hcolon' hv' hmid' _ =>
    obtain ⟨rfl, rfl⟩ := Prod.mk.inj (Except.ok.inj (hkey'.symm.trans hkey))
    obtain rfl := Except.ok.inj (hcolon'.symm.trans hcolon)
    obtain ⟨rfl, rfl⟩ := hv _ _ hv'
    exact absurd (List.cons.inj (hmid'.symm.trans hmid)).1 (by decide)

/-- A binding of an object is followed by the next bindings only. -/
lemma SpellsAtMost.nextBinding {bindings : List (String × Value)}
    (hkey : readString cs = .ok (key, behindKey)) (hcolon : readColon behindKey = .ok value)
    (hv : SpellsAtMost SpellsValue value v mid) (hmid : skipBlanks mid = ',' :: more)
    (hbindings : SpellsAtMost SpellsBindings (skipBlanks more) bindings rest) :
    SpellsAtMost SpellsBindings ('"' :: cs) ((key, v) :: bindings) rest := by
  intro bs' rest' h
  cases h with
  | last hkey' hcolon' hv' hmid' =>
    obtain ⟨rfl, rfl⟩ := Prod.mk.inj (Except.ok.inj (hkey'.symm.trans hkey))
    obtain rfl := Except.ok.inj (hcolon'.symm.trans hcolon)
    obtain ⟨rfl, rfl⟩ := hv _ _ hv'
    exact absurd (List.cons.inj (hmid'.symm.trans hmid)).1 (by decide)
  | next hkey' hcolon' hv' hmid' hbindings' =>
    obtain ⟨rfl, rfl⟩ := Prod.mk.inj (Except.ok.inj (hkey'.symm.trans hkey))
    obtain rfl := Except.ok.inj (hcolon'.symm.trans hcolon)
    obtain ⟨rfl, rfl⟩ := hv _ _ hv'
    obtain rfl := (List.cons.inj (hmid'.symm.trans hmid)).2
    obtain ⟨rfl, rfl⟩ := hbindings _ _ hbindings'
    exact ⟨rfl, rfl⟩

end SpellsAtMost

/-! ## Reading what is spelled -/

/-- What is read in so many steps is what the characters spell, merged, and they spell nothing
else. -/
structure ReadsSpelled (steps : Nat) : Prop where
  value : ∀ {room : Nat} {cs rest : List Char} {v : Value},
    readValue steps room cs = .ok (v, rest) →
      ∃ w, SpellsOnly SpellsValue cs w rest ∧ v = w.merged
  items : ∀ {room : Nat} {cs rest : List Char} {vs : List Value},
    readItems steps room cs = .ok (vs, rest) →
      ∃ ws, SpellsOnly SpellsItems cs ws rest ∧ vs = mergedItems ws
  members : ∀ {room : Nat} {cs rest : List Char} {members members' : Members},
    readMembers steps room members cs = .ok (members', rest) →
      ∃ bindings, SpellsOnly SpellsBindings cs bindings rest ∧
        members' = mergedMembers members bindings

/-- **What is read is what is spelled.**

**Proof sketch.** Induction on the steps, for the three readers at once, along what each of them
reads from. -/
lemma readsSpelled (steps : Nat) : ReadsSpelled steps := by
  induction steps with
  | zero => exact ⟨nofun, nofun, nofun⟩
  | succ steps ih =>
    refine ⟨fun {room cs rest v} h => ?_, fun {room cs rest vs} h => ?_,
      fun {room cs rest members members'} h => ?_⟩
    · cases cs with
      | nil => cases h
      | cons c cs =>
        by_cases harray : c = '['
        · subst harray
          rcases readValue_bracket h with ⟨hend, rfl⟩ | ⟨room', items, hstart, hitems, rfl⟩
          · exact ⟨.array [], (SpellsAtMost.emptyArray hend).only (.emptyArray hend), rfl⟩
          · obtain ⟨ws, hws, rfl⟩ := ih.items hitems
            exact ⟨.array ws, (SpellsAtMost.array hstart hws.2).only (.array hstart hws.1), rfl⟩
        by_cases hobject : c = '{'
        · subst hobject
          rcases readValue_brace h with ⟨hend, rfl⟩ | ⟨room', members, hstart, hmembers, rfl⟩
          · exact ⟨.object [], (SpellsAtMost.emptyObject hend).only (.emptyObject hend), rfl⟩
          · obtain ⟨bindings, hbindings, rfl⟩ := ih.members hmembers
            exact ⟨.object bindings,
              (SpellsAtMost.object hstart hbindings.2).only (.object hstart hbindings.1), rfl⟩
        · obtain ⟨hread, hmerged⟩ := readValue_leaf harray hobject h
          have hunique := SpellsAtMost.leaf harray hobject fun _ _ hread' =>
            Prod.mk.inj (Except.ok.inj (hread'.symm.trans hread))
          exact ⟨v, hunique.only (.leaf harray hobject hread), hmerged.symm⟩
    · obtain ⟨v, mid, hv, ⟨hmid, rfl⟩ | ⟨more, others, hmid, hothers, rfl⟩⟩ := readItems_eq_ok h
      · obtain ⟨w, hw, rfl⟩ := ih.value hv
        exact ⟨[w], (SpellsAtMost.lastItem hw.2 hmid).only (.last hw.1 hmid), rfl⟩
      · obtain ⟨w, hw, rfl⟩ := ih.value hv
        obtain ⟨ws, hws, rfl⟩ := ih.items hothers
        exact ⟨w :: ws,
          (SpellsAtMost.nextItem hw.2 hmid hws.2).only (.next hw.1 hmid hws.1), rfl⟩
    · obtain ⟨cs, key, behindKey, value, v, mid, rfl, hkey, hcolon, hv,
        ⟨hmid, rfl⟩ | ⟨more, hmid, hmore⟩⟩ := readMembers_eq_ok h
      · obtain ⟨w, hw, rfl⟩ := ih.value hv
        exact ⟨[(key, w)], (SpellsAtMost.lastBinding hkey hcolon hw.2 hmid).only
          (.last hkey hcolon hw.1 hmid), rfl⟩
      · obtain ⟨w, hw, rfl⟩ := ih.value hv
        obtain ⟨bindings, hbindings, rfl⟩ := ih.members hmore
        exact ⟨(key, w) :: bindings,
          (SpellsAtMost.nextBinding hkey hcolon hw.2 hmid hbindings.2).only
            (.next hkey hcolon hw.1 hmid hbindings.1), rfl⟩

/-- **A text that can be read spells one value**, and what is read is this value, merged. -/
theorem exists_spells_of_parse {text : String} {v : Value} (h : parse text = .ok v) :
    ∃ w, Spells text w ∧ (∀ w', Spells text w' → w' = w) ∧ v = w.merged := by
  unfold parse readDocument at h
  cases hread : readValue (2 * text.toList.length + 1) deepest (skipBlanks text.toList) with
  | error fault => simp [hread] at h
  | ok p =>
    obtain ⟨u, rest⟩ := p
    simp only [hread, ok_bind] at h
    split at h
    next hrest =>
      obtain rfl : u = v := by simpa [Except.mapError, pure, Except.pure] using h
      obtain ⟨w, hw, hmerged⟩ := (readsSpelled _).value hread
      refine ⟨w, ⟨rest, hw.1, hrest⟩, fun w' ⟨rest', hw', _⟩ => (hw.2 w' rest' hw').1, hmerged⟩
    · simp [Except.mapError] at h

end RegisterFile.Json

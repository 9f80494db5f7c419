import Mathlib.Tactic.IntervalCases
import RegisterFile.Proofs.Json.Leaves

set_option autoImplicit false

/-!
# Reading what is written as JSON

A value that is written as JSON text, in whatever layout, is read back as the same value. This holds
of the values that the readers can tell apart from others: their numbers have no sign and 64 bits,
their objects bind each key once, and they nest no deeper than the readers go.

## Main definitions

* `Json.Faithful` - the values that are read back.

## Main results

* `Json.Faithful.readValue_write` - reading a value in front of what closes it.
* `Json.parse_compact`, `Json.parse_pretty` - reading the two texts of a value.
-/

namespace RegisterFile.Json

open Numeral (digits)

/-- The values that are read back from their text where `room` levels of arrays and objects may be
opened. -/
inductive Faithful : (room : Nat) → Value → Prop
  | null {room : Nat} : Faithful room .null
  | boolean {room : Nat} (b : Bool) : Faithful room (.boolean b)
  | number {room n : Nat} (hn : n < mantissaBound) : Faithful room (.ofNat n)
  | text {room : Nat} (s : String) : Faithful room (.text s)
  | array {room : Nat} {items : List Value} (h : ∀ v ∈ items, Faithful room v) :
      Faithful (room + 1) (.array items)
  | object {room : Nat} {members : Members} (hkeys : (members.map Prod.fst).Nodup)
      (h : ∀ m ∈ members, Faithful room m.2) : Faithful (room + 1) (.object members)

/-! ## Blanks -/

/-- The blanks at the start of a line are skipped. -/
@[simp] lemma skipBlanks_newLine (layout : Layout) (depth : Nat) (cs : List Char) :
    skipBlanks (layout.newLine depth ++ cs) = skipBlanks cs := by
  cases layout with
  | compact => rfl
  | indented step =>
    refine List.dropWhile_append_of_pos fun c hc => ?_
    rcases List.mem_cons.mp hc with rfl | hc
    · rfl
    · rw [(List.mem_replicate.mp hc).2]
      rfl

/-- A text that starts with no blank is not changed. -/
lemma skipBlanks_cons {c : Char} (hc : isBlank c = false) (cs : List Char) :
    skipBlanks (c :: cs) = c :: cs := by
  simp [skipBlanks, hc]

/-- A closing bracket, alone or on a line of its own, closes a value. -/
lemma closes_newLine (layout : Layout) (depth : Nat) {c : Char} (hc : c = ']' ∨ c = '}')
    (rest : List Char) : Closes (layout.newLine depth ++ c :: rest) := by
  intro d hd
  cases layout with
  | compact =>
    obtain rfl : c = d := Option.some.inj hd
    tauto
  | indented step =>
    obtain rfl : '\n' = d := Option.some.inj hd
    tauto

/-- No blank stands in front of a quoted string. -/
lemma skipBlanks_writeText (s : String) (rest : List Char) :
    skipBlanks (writeText s ++ rest) = writeText s ++ rest :=
  skipBlanks_cons (by decide) _

/-! ## Numbers -/

/-- A number without exponent is written as its digits. -/
lemma write_ofNat (n : Nat) : (Number.ofNat n).write = digits 10 n := by
  rcases Nat.eq_zero_or_pos n with rfl | hn
  · rfl
  · simp [Number.write, Number.ofNat, Number.writeMagnitude, Nat.pos_iff_ne_zero.mp hn]

/-- The digits of a number start with a decimal digit. -/
lemma exists_digits_eq_digitChar (n : Nat) :
    ∃ d cs, d < 10 ∧ digits 10 n = Nat.digitChar d :: cs := by
  have hne : digits 10 n ≠ [] := Numeral.digits_ne_nil n
  obtain ⟨c, cs, hcs⟩ := List.exists_cons_of_ne_nil hne
  obtain ⟨d, hd, rfl⟩ := Numeral.exists_of_mem_digits (by decide)
    (hcs ▸ List.mem_cons_self : c ∈ digits 10 n)
  exact ⟨d, cs, hd, hcs⟩

/-! ## The first character of a value -/

/-- A value starts with no blank and no closing bracket. -/
lemma Faithful.exists_write_eq_cons {room : Nat} {v : Value} (h : Faithful room v)
    (layout : Layout) (depth : Nat) :
    ∃ c cs, v.write layout depth = c :: cs ∧ isBlank c = false ∧ c ≠ ']' := by
  cases h with
  | null => exact ⟨_, _, rfl, by decide, by decide⟩
  | boolean b => cases b <;> exact ⟨_, _, rfl, by decide, by decide⟩
  | @number _ n _ =>
    obtain ⟨d, cs, hd, hcs⟩ := exists_digits_eq_digitChar n
    refine ⟨_, cs, (write_ofNat n).trans hcs, ?_⟩
    interval_cases d <;> decide
  | text s => exact ⟨_, _, rfl, by decide, by decide⟩
  | @array _ items _ => cases items <;> exact ⟨_, _, rfl, by decide, by decide⟩
  | @object _ members _ _ =>
    cases members <;> exact ⟨_, _, rfl, by decide, by decide⟩

/-- The blanks in front of a value are skipped, and nothing of the value. -/
lemma Faithful.skipBlanks_write {room : Nat} {v : Value} (h : Faithful room v)
    (layout : Layout) (depth : Nat) (rest : List Char) :
    skipBlanks (v.write layout depth ++ rest) = v.write layout depth ++ rest := by
  obtain ⟨c, cs, hcs, hc, -⟩ := h.exists_write_eq_cons layout depth
  rw [hcs, List.cons_append, skipBlanks_cons hc]

/-! ## Reading arrays -/

/-- The last item of an array is read. -/
lemma readItems_last {steps room : Nat} {v : Value} {cs mid rest : List Char}
    (hv : readValue steps room cs = .ok (v, mid)) (hmid : skipBlanks mid = ']' :: rest) :
    readItems (steps + 1) room cs = .ok ([v], rest) := by
  simp [readItems, hv, hmid]

/-- An item of an array is read, and the items behind it. -/
lemma readItems_next {steps room : Nat} {v : Value} {vs : List Value}
    {cs mid more rest : List Char} (hv : readValue steps room cs = .ok (v, mid))
    (hmid : skipBlanks mid = ',' :: more)
    (hvs : readItems steps room (skipBlanks more) = .ok (vs, rest)) :
    readItems (steps + 1) room cs = .ok (v :: vs, rest) := by
  simp [readItems, hv, hmid, hvs]

/-- An array with items is read. -/
lemma readValue_array {steps room : Nat} {vs : List Value} {c : Char}
    {cs first rest : List Char} (hfirst : skipBlanks cs = c :: first) (hc : c ≠ ']')
    (hvs : readItems steps room (c :: first) = .ok (vs, rest)) :
    readValue (steps + 1) (room + 1) ('[' :: cs) = .ok (.array vs, rest) := by
  simp [readValue, hfirst, hc, hvs]

/-! ## Reading objects -/

/-- A key that is not bound yet is bound behind the others. -/
lemma setMember_of_notMem {key : String} {v : Value} {members : Members}
    (h : key ∉ members.map Prod.fst) : setMember key v members = members ++ [(key, v)] := by
  induction members with
  | nil => rfl
  | cons m ms ih =>
    simp only [List.map_cons, List.mem_cons, not_or] at h
    simp [setMember, Ne.symm h.1, ih h.2]

/-- A key that is bound once is not bound by the members before it. -/
lemma notMem_keys {acc members : Members} {key : String} {v : Value}
    (hkeys : ((acc ++ (key, v) :: members).map Prod.fst).Nodup) : key ∉ acc.map Prod.fst := by
  rw [List.map_append, List.nodup_append] at hkeys
  intro hkey
  exact hkeys.2.2 key hkey key (by simp) rfl

/-- What stands between a key and its value is read. -/
lemma readColon_colon (layout : Layout) {cs : List Char} (hcs : skipBlanks cs = cs) :
    readColon (layout.colon ++ cs) = .ok cs := by
  cases layout with
  | compact =>
    simp [Layout.colon, readColon, skipBlanks_cons (by decide : isBlank ':' = false), readWord, hcs]
  | indented step =>
    have hspace : skipBlanks (' ' :: cs) = cs := hcs
    simp [Layout.colon, readColon, skipBlanks_cons (by decide : isBlank ':' = false), readWord,
      hspace]

/-- The last member of an object is read. -/
lemma readMembers_last {steps room : Nat} {acc : Members} {key : String} {v : Value}
    {cs behindKey value mid rest : List Char} (hkey : readString cs = .ok (key, behindKey))
    (hcolon : readColon behindKey = .ok value) (hv : readValue steps room value = .ok (v, mid))
    (hmid : skipBlanks mid = '}' :: rest) :
    readMembers (steps + 1) room acc ('"' :: cs) = .ok (setMember key v acc, rest) := by
  simp [readMembers, readWord, hkey, hcolon, hv, hmid]

/-- A member of an object is read, and the members behind it. -/
lemma readMembers_next {steps room : Nat} {acc members : Members} {key : String} {v : Value}
    {cs behindKey value mid more rest : List Char} (hkey : readString cs = .ok (key, behindKey))
    (hcolon : readColon behindKey = .ok value) (hv : readValue steps room value = .ok (v, mid))
    (hmid : skipBlanks mid = ',' :: more)
    (hmembers : readMembers steps room (setMember key v acc) (skipBlanks more) =
      .ok (members, rest)) :
    readMembers (steps + 1) room acc ('"' :: cs) = .ok (members, rest) := by
  simp [readMembers, readWord, hkey, hcolon, hv, hmid, hmembers]

/-- An object with members is read. -/
lemma readValue_object {steps room : Nat} {members : Members} {c : Char}
    {cs first rest : List Char} (hfirst : skipBlanks cs = c :: first) (hc : c ≠ '}')
    (hmembers : readMembers steps room [] (c :: first) = .ok (members, rest)) :
    readValue (steps + 1) (room + 1) ('{' :: cs) = .ok (.object members, rest) := by
  simp [readValue, hfirst, hc, hmembers]

/-! ## Reading back -/

/-- Whether `v`, written in `layout` at `depth`, is read back in front of whatever closes it. -/
def ReadBack (layout : Layout) (depth room : Nat) (v : Value) : Prop :=
  ∀ (steps : Nat) {rest : List Char}, Closes rest → 2 * (v.write layout depth).length ≤ steps →
    readValue steps room (v.write layout depth ++ rest) = .ok (v, rest)

section Layouts

variable (layout : Layout) (depth : Nat)

/-- A further item stands behind a comma, on a line of its own. -/
lemma writeItems_cons_append (v : Value) (vs : List Value) (rest : List Char) :
    writeItems layout depth (v :: vs) ++ rest =
      ',' :: (layout.newLine (depth + 1) ++ (v.write layout (depth + 1) ++
        (writeItems layout depth vs ++ rest))) := by
  simp [writeItems]

/-- A further member stands behind a comma, on a line of its own. -/
lemma writeMembers_cons_append (key : String) (v : Value) (members : Members)
    (rest : List Char) :
    writeMembers layout depth ((key, v) :: members) ++ rest =
      ',' :: (layout.newLine (depth + 1) ++ (writeText key ++ (layout.colon ++
        (v.write layout (depth + 1) ++ (writeMembers layout depth members ++ rest))))) := by
  simp [writeMembers]

/-- The items of an array stand between brackets. -/
lemma write_array_cons_append (v : Value) (vs : List Value) (rest : List Char) :
    (Value.array (v :: vs)).write layout depth ++ rest =
      '[' :: (layout.newLine (depth + 1) ++ (v.write layout (depth + 1) ++
        (writeItems layout depth vs ++ (layout.newLine depth ++ ']' :: rest)))) := by
  simp [Value.write]

/-- The members of an object stand between braces. -/
lemma write_object_cons_append (key : String) (v : Value) (members : Members)
    (rest : List Char) :
    (Value.object ((key, v) :: members)).write layout depth ++ rest =
      '{' :: (layout.newLine (depth + 1) ++ (writeText key ++ (layout.colon ++
        (v.write layout (depth + 1) ++ (writeMembers layout depth members ++
          (layout.newLine depth ++ '}' :: rest)))))) := by
  simp [Value.write]

/-- Further items close the item in front of them. -/
lemma closes_writeItems (vs : List Value) (rest : List Char) :
    Closes (writeItems layout depth vs ++ (layout.newLine depth ++ ']' :: rest)) := by
  cases vs with
  | nil => exact closes_newLine layout depth (.inl rfl) rest
  | cons v vs => exact fun c hc => .inl (Option.some.inj hc).symm

/-- Further members close the member in front of them. -/
lemma closes_writeMembers (members : Members) (rest : List Char) :
    Closes (writeMembers layout depth members ++ (layout.newLine depth ++ '}' :: rest)) := by
  cases members with
  | nil => exact closes_newLine layout depth (.inr rfl) rest
  | cons m ms => exact fun c hc => .inl (Option.some.inj hc).symm

end Layouts

/-- The items of an array are read back if each of them is.

**Proof sketch.** Induction on the further items. The reader takes two steps for each item, one for
the list and one for the value, and every item has a comma or a character of its own. -/
lemma readItems_writeItems {layout : Layout} {depth room : Nat} {v : Value} {vs : List Value}
    (hfaithful : ∀ w ∈ v :: vs, Faithful room w)
    (hread : ∀ w ∈ v :: vs, ReadBack layout (depth + 1) room w) (steps : Nat) (rest : List Char)
    (hsteps : 2 * ((v.write layout (depth + 1)).length + (writeItems layout depth vs).length) + 1 ≤
      steps) :
    readItems steps room (v.write layout (depth + 1) ++ (writeItems layout depth vs ++
      (layout.newLine depth ++ ']' :: rest))) = .ok (v :: vs, rest) := by
  induction vs generalizing v steps with
  | nil =>
    obtain ⟨steps, rfl⟩ : ∃ s, steps = s + 1 := ⟨steps - 1, by omega⟩
    have hv := hread v List.mem_cons_self steps (closes_writeItems layout depth [] rest) (by omega)
    refine readItems_last hv ?_
    rw [writeItems, List.nil_append, skipBlanks_newLine, skipBlanks_cons (by decide)]
  | cons w ws ih =>
    obtain ⟨steps, rfl⟩ : ∃ s, steps = s + 1 := ⟨steps - 1, by omega⟩
    have hv := hread v List.mem_cons_self steps (closes_writeItems layout depth (w :: ws) rest)
      (by omega)
    have hws := ih (fun u hu => hfaithful u (List.mem_cons_of_mem v hu))
      (fun u hu => hread u (List.mem_cons_of_mem v hu)) steps
      (by simp [writeItems] at hsteps; omega)
    have hw := hfaithful w (List.mem_cons_of_mem v List.mem_cons_self)
    rw [writeItems_cons_append] at hv ⊢
    refine readItems_next hv (skipBlanks_cons (by decide) _) ?_
    rw [skipBlanks_newLine, hw.skipBlanks_write]
    exact hws

/-- A member is read back up to its value, if that is.

**Proof sketch.** The key is read as a string, and blanks around the colon are skipped. -/
lemma exists_behindKey (layout : Layout) (key : String) {value : List Char}
    (hvalue : skipBlanks value = value) :
    ∃ cs behindKey, writeText key ++ (layout.colon ++ value) = '"' :: cs ∧
      readString cs = .ok (key, behindKey) ∧ readColon behindKey = .ok value := by
  obtain ⟨cs, hcs, hkey⟩ := exists_writeText_eq_cons key (layout.colon ++ value)
  exact ⟨cs, _, hcs, hkey, readColon_colon layout hvalue⟩

/-- The members of an object are read back behind those read so far, if their values are and no key
is bound twice.

**Proof sketch.** Induction on the further members, as for items. A key that is not bound so far is
bound behind the others, which keeps the order. -/
lemma readMembers_writeMembers {layout : Layout} {depth room : Nat} {key : String} {v : Value}
    {acc members : Members} (hkeys : ((acc ++ (key, v) :: members).map Prod.fst).Nodup)
    (hfaithful : ∀ m ∈ (key, v) :: members, Faithful room m.2)
    (hread : ∀ m ∈ (key, v) :: members, ReadBack layout (depth + 1) room m.2) (steps : Nat)
    (rest : List Char)
    (hsteps : 2 * ((v.write layout (depth + 1)).length +
      (writeMembers layout depth members).length) + 1 ≤ steps) :
    readMembers steps room acc (writeText key ++ (layout.colon ++ (v.write layout (depth + 1) ++
      (writeMembers layout depth members ++ (layout.newLine depth ++ '}' :: rest))))) =
        .ok (acc ++ (key, v) :: members, rest) := by
  induction members generalizing key v acc steps with
  | nil =>
    obtain ⟨steps, rfl⟩ : ∃ s, steps = s + 1 := ⟨steps - 1, by omega⟩
    have hv := hread _ List.mem_cons_self steps (closes_writeMembers layout depth [] rest)
      (by dsimp only; omega)
    have hblank := (hfaithful _ List.mem_cons_self).skipBlanks_write layout (depth + 1)
    obtain ⟨cs, behindKey, hcs, hkey, hcolon⟩ := exists_behindKey layout key (hblank _)
    rw [hcs, ← setMember_of_notMem (notMem_keys hkeys)]
    refine readMembers_last hkey hcolon hv ?_
    rw [writeMembers, List.nil_append, skipBlanks_newLine, skipBlanks_cons (by decide)]
  | cons m ms ih =>
    obtain ⟨next, w⟩ := m
    obtain ⟨steps, rfl⟩ : ∃ s, steps = s + 1 := ⟨steps - 1, by omega⟩
    have hv := hread _ List.mem_cons_self steps
      (closes_writeMembers layout depth ((next, w) :: ms) rest) (by dsimp only; omega)
    have hblank := (hfaithful _ List.mem_cons_self).skipBlanks_write layout (depth + 1)
    obtain ⟨cs, behindKey, hcs, hkey, hcolon⟩ := exists_behindKey layout key (hblank _)
    have hms := ih (by simpa using hkeys : ((acc ++ [(key, v)] ++ (next, w) :: ms).map _).Nodup)
      (fun u hu => hfaithful u (List.mem_cons_of_mem _ hu))
      (fun u hu => hread u (List.mem_cons_of_mem _ hu)) steps
      (by simp [writeMembers] at hsteps; omega)
    rw [hcs]
    rw [writeMembers_cons_append] at hcolon hv
    refine readMembers_next hkey hcolon hv (skipBlanks_cons (by decide) _) ?_
    rw [skipBlanks_newLine, setMember_of_notMem (notMem_keys hkeys), skipBlanks_writeText, hms]
    simp

/-- The digits of a number are read as a value. -/
lemma readValue_digits (steps room : Nat) {rest : List Char} (hrest : Closes rest) {n : Nat}
    (hn : n < mantissaBound) :
    readValue (steps + 1) room (digits 10 n ++ rest) = .ok (.ofNat n, rest) := by
  have hnumber := readNumber_digits hrest hn
  obtain ⟨d, cs, hd, hcs⟩ := exists_digits_eq_digitChar n
  rw [hcs, List.cons_append] at hnumber ⊢
  have hvalue : readValue (steps + 1) room (Nat.digitChar d :: (cs ++ rest)) =
      (readNumber (Nat.digitChar d :: (cs ++ rest))).map fun r => (.number r.1, r.2) := by
    interval_cases d <;> rfl
  rw [hvalue, hnumber]
  rfl

/-- The text of a value leaves the reader a step. -/
lemma Faithful.exists_steps {room : Nat} {v : Value} (h : Faithful room v) {layout : Layout}
    {depth steps : Nat} (hsteps : 2 * (v.write layout depth).length ≤ steps) :
    ∃ s, steps = s + 1 := by
  obtain ⟨c, cs, hcs, -⟩ := h.exists_write_eq_cons layout depth
  rw [hcs, List.length_cons] at hsteps
  exact ⟨steps - 1, by omega⟩

/-- **A faithful value is read back** in front of whatever closes it.

**Proof sketch.** Induction on the value. The items of an array and the members of an object are
read back one after another (`readItems_writeItems`, `readMembers_writeMembers`); the first
character of a value is no closing bracket, so that the reader does not take the array for an empty
one. -/
theorem Faithful.readValue_write {room : Nat} {v : Value} (h : Faithful room v) (layout : Layout)
    (depth : Nat) : ReadBack layout depth room v := by
  induction h generalizing depth with
  | @null room =>
    intro steps rest _ hsteps
    obtain ⟨steps, rfl⟩ := (Faithful.null : Faithful room _).exists_steps hsteps
    rfl
  | @boolean room b =>
    intro steps rest _ hsteps
    obtain ⟨steps, rfl⟩ := (Faithful.boolean b : Faithful room _).exists_steps hsteps
    cases b <;> rfl
  | @number room n hn =>
    intro steps rest hrest hsteps
    obtain ⟨steps, rfl⟩ := (Faithful.number hn : Faithful room _).exists_steps hsteps
    rw [show (Value.ofNat n).write layout depth = digits 10 n from write_ofNat n]
    exact readValue_digits steps room hrest hn
  | @text room s =>
    intro steps rest _ hsteps
    obtain ⟨steps, rfl⟩ := (Faithful.text s : Faithful room _).exists_steps hsteps
    obtain ⟨cs, hcs, hread⟩ := exists_writeText_eq_cons s rest
    rw [Value.write, hcs]
    simp [readValue, hread]
  | @array room items hitems ih =>
    intro steps rest _ hsteps
    obtain ⟨steps, rfl⟩ := (Faithful.array hitems).exists_steps hsteps
    cases items with
    | nil => rfl
    | cons w ws =>
      have hread := readItems_writeItems hitems (fun u hu => ih u hu (depth + 1)) steps rest
        (by simp [Value.write] at hsteps; omega)
      obtain ⟨c, cs, hw, -, hc⟩ :=
        (hitems w List.mem_cons_self).exists_write_eq_cons layout (depth + 1)
      rw [write_array_cons_append]
      rw [hw, List.cons_append] at hread ⊢
      refine readValue_array ?_ hc hread
      rw [skipBlanks_newLine]
      exact (hw ▸ (hitems w List.mem_cons_self).skipBlanks_write layout (depth + 1) _ :)
  | @object room members hkeys hmembers ih =>
    intro steps rest _ hsteps
    obtain ⟨steps, rfl⟩ := (Faithful.object hkeys hmembers).exists_steps hsteps
    cases members with
    | nil => rfl
    | cons m ms =>
      obtain ⟨key, w⟩ := m
      have hkeys : ((([] : Members) ++ (key, w) :: ms).map Prod.fst).Nodup := hkeys
      have hread := readMembers_writeMembers hkeys hmembers (fun u hu => ih u hu (depth + 1))
        steps rest (by simp [Value.write] at hsteps; omega)
      rw [write_object_cons_append]
      refine readValue_object ?_ (by decide) hread
      rw [skipBlanks_newLine, skipBlanks_writeText]
      rfl

/-- The characters of a faithful value are a document that holds it. -/
lemma readDocument_write {v : Value} (h : Faithful deepest v) (layout : Layout) :
    readDocument (v.write layout 0) = .ok v := by
  have hblank := h.skipBlanks_write layout 0 []
  have hend : Closes [] := by simp [Closes]
  have hread := h.readValue_write layout 0 (2 * (v.write layout 0).length + 1) hend (by omega)
  rw [List.append_nil] at hblank hread
  rw [readDocument, hblank, hread]
  rfl

/-- **The compact text of a faithful value is read back.** -/
theorem parse_compact {v : Value} (h : Faithful deepest v) : parse v.compact = .ok v := by
  simp [parse, Value.compact, readDocument_write h, Except.mapError]

/-- **The indented text of a faithful value is read back**, whatever the indent. -/
theorem parse_pretty {v : Value} (h : Faithful deepest v) (step : Nat) :
    parse (v.pretty step) = .ok v := by
  simp [parse, Value.pretty, readDocument_write h, Except.mapError]

end RegisterFile.Json

import RegisterFile.Proofs.IntegerLiteral
import RegisterFile.Proofs.TableOrder

set_option autoImplicit false

/-!
# The columns of register tables

A line of a register table shows the address, the label, the mode and the value on reset of a
register. Labels are filled up to the longest one and the known modes have four characters each, so
that nothing but the digits of the address moves the fields behind it: a table is aligned exactly if
its addresses take equally many characters. They do where four digits are enough for each of them;
a longer address pushes the rest of its line to the right.

## Main definitions

* `Columns` - where the fields of a line start.
* `Columns.Shows` - a line shows the fields of a register from there on.
* `Aligned` - all lines show their registers from the same positions on.

## Main results

* `shows_registerLine_iff` - where the fields of a line start.
* `registerTable_aligned_iff` - when a register table is aligned.
* `registerTable_not_aligned` - a table that is not.
-/

namespace RegisterFile

open Numeral (digits zeroPadded)

/-! ## Fields -/

/-- Where the fields of a line start, in characters. -/
structure Columns where
  label : Nat
  mode : Nat
  value : Nat
  deriving DecidableEq, Repr

/-- The line shows the label, the mode and the value on reset of a register from the given positions
on. The label stands behind the first space, and only spaces stand between it and the other
fields. -/
def Columns.Shows (c : Columns) (r : Register) (line : String) : Prop :=
  ∃ (address : List Char) (gap gap' : Nat), ' ' ∉ address ∧
    line.toList = address ++ ' ' :: (r.label.toList ++ (List.replicate (gap + 1) ' ' ++
      (r.mode.tag.toList ++ (List.replicate (gap' + 1) ' ' ++
        (Numeral.hex r.initval.toNat).toList)))) ∧
    c.label = address.length + 1 ∧ c.mode = c.label + r.label.length + (gap + 1) ∧
    c.value = c.mode + r.mode.tag.length + (gap' + 1)

/-- All lines show their registers from the same positions on. -/
def Aligned (rs : List Register) (lines : List String) : Prop :=
  ∃ c : Columns, List.Forall₂ c.Shows rs lines

/-- A text whose first character is no space is found behind spaces in one way only. -/
lemma eq_of_replicate_append {m n : Nat} {c : Char} {xs ys : List Char} (hc : c ≠ ' ')
    (h : List.replicate m ' ' ++ c :: xs = List.replicate n ' ' ++ c :: ys) : m = n := by
  induction m generalizing n with
  | zero =>
    cases n with
    | zero => rfl
    | succ n =>
      rw [List.replicate_succ, List.replicate_zero, List.nil_append, List.cons_append,
        List.cons.injEq] at h
      exact absurd h.1 hc
  | succ m ih =>
    cases n with
    | zero =>
      rw [List.replicate_succ, List.replicate_zero, List.nil_append, List.cons_append,
        List.cons.injEq] at h
      exact absurd h.1.symm hc
    | succ n =>
      rw [List.replicate_succ, List.replicate_succ, List.cons_append, List.cons_append,
        List.cons.injEq] at h
      rw [ih h.2]

/-- What stands in front of the first space, and what starts with that space. -/
lemma cut_append_space {cs : List Char} (hcs : ' ' ∉ cs) (xs : List Char) :
    (cs ++ ' ' :: xs).takeWhile (· ≠ ' ') = cs ∧
      (cs ++ ' ' :: xs).dropWhile (· ≠ ' ') = ' ' :: xs := by
  have hvisible : ∀ c ∈ cs, decide (c ≠ ' ') = true :=
    fun c hc => decide_eq_true (ne_of_mem_of_not_mem hc hcs)
  rw [List.takeWhile_append_of_pos hvisible, List.dropWhile_append_of_pos hvisible]
  simp

/-- What stands in front of the first space is found in one way only. -/
lemma eq_of_append_space {as bs xs ys : List Char} (ha : ' ' ∉ as) (hb : ' ' ∉ bs)
    (h : as ++ ' ' :: xs = bs ++ ' ' :: ys) : as = bs := by
  have hfront := congrArg (List.takeWhile (· ≠ ' ')) h
  rwa [(cut_append_space ha xs).1, (cut_append_space hb ys).1] at hfront

/-- The text of a known mode has four characters, and the first one is no space. -/
lemma Mode.tag_of_isKnown {m : Mode} (h : m.isKnown = true) :
    m.tag.length = 4 ∧ ∃ c cs, m.tag.toList = c :: cs ∧ c ≠ ' ' := by
  obtain ⟨access, haccess⟩ := Option.isSome_iff_exists.mp h
  rw [Mode.access?_eq_some_iff] at haccess
  rw [haccess]
  cases access <;> exact ⟨rfl, _, _, rfl, by decide⟩

namespace Columns

variable {c c' : Columns} {r : Register} {line : String}

/-- The fields of a register start at one place of a line each. -/
lemma Shows.unique (h : c.Shows r line) (h' : c'.Shows r line)
    (hmode : r.mode.isKnown = true) : c = c' := by
  obtain ⟨address, gap, mid, haddress, hline, hlabel, hmodeAt, hvalue⟩ := h
  obtain ⟨address', gap', mid', haddress', hline', hlabel', hmodeAt', hvalue'⟩ := h'
  obtain ⟨-, d, ds, htag, hd⟩ := Mode.tag_of_isKnown hmode
  rw [hline] at hline'
  obtain rfl := eq_of_append_space haddress haddress' hline'
  have hrest := List.append_cancel_left (List.cons.inj (List.append_cancel_left hline')).2
  have hgap : gap + 1 = gap' + 1 := by
    rw [htag] at hrest
    exact eq_of_replicate_append hd hrest
  rw [hgap] at hrest
  have hmid : mid + 1 = mid' + 1 := by
    have hlength := congrArg List.length
      (List.append_cancel_left (List.append_cancel_left hrest))
    simp only [List.length_append, List.length_replicate] at hlength
    omega
  cases c
  cases c'
  simp only [mk.injEq] at hlabel hlabel' hmodeAt hmodeAt' hvalue hvalue' ⊢
  omega

end Columns

/-! ## Lines -/

/-- The number of characters of a register's address without the mark in front of it. -/
def addressCharacters (r : Register) : Nat := max 4 (digits 16 r.address.toNat).length

/-- Where the fields of a register's line start, if its label is filled up to `column`
characters. -/
def tableColumns (column : Nat) (r : Register) : Columns where
  label := addressCharacters r + 3
  mode := addressCharacters r + 3 + (column + 1)
  value := addressCharacters r + 3 + (column + 1) + 5

/-- No space stands in the hexadecimal spelling of a number. -/
lemma space_notMem_paddedHex (width n : Nat) : ' ' ∉ (Numeral.paddedHex width n).toList := by
  rw [Numeral.paddedHex, String.toList_ofList, zeroPadded]
  intro h
  simp only [List.mem_cons, List.mem_append, List.mem_replicate] at h
  rcases h with h | h | ⟨-, h⟩ | h
  · exact absurd h (by decide)
  · exact absurd h (by decide)
  · exact absurd h (by decide)
  · obtain ⟨d, hd, hspace⟩ := Numeral.exists_of_mem_digits (by decide) h
    have hblank := (IntegerLiteral.digitChar_ne hd).1
    rw [← hspace] at hblank
    exact absurd hblank (by decide)

/-- The address of a line has two characters for its mark and at least four digits. -/
lemma length_paddedHex (r : Register) :
    (Numeral.paddedHex 6 r.address.toNat).length = addressCharacters r + 2 := by
  rw [Numeral.paddedHex, String.length_ofList, List.length_cons, List.length_cons,
    Numeral.length_zeroPadded, addressCharacters]

/-- The line of a register shows its fields where they are put. -/
lemma shows_registerLine {column : Nat} {r : Register} (hlabel : r.label.length ≤ column)
    (hmode : r.mode.isKnown = true) :
    (tableColumns column r).Shows r (registerLine column r) := by
  obtain ⟨htag, -⟩ := Mode.tag_of_isKnown hmode
  refine ⟨(Numeral.paddedHex 6 r.address.toNat).toList, column - r.label.length, 0,
    space_notMem_paddedHex _ _, ?_, ?_, ?_, ?_⟩
  · simp [registerLine, htag, List.replicate_succ']
  · rw [String.length_toList, length_paddedHex, tableColumns]
  · simp only [tableColumns]
    omega
  · simp only [tableColumns, htag]

/-- **Where the fields of a line start.** -/
theorem shows_registerLine_iff {column : Nat} {r : Register} (hlabel : r.label.length ≤ column)
    (hmode : r.mode.isKnown = true) (c : Columns) :
    c.Shows r (registerLine column r) ↔ c = tableColumns column r := by
  have hshows := shows_registerLine hlabel hmode
  constructor
  · intro h
    exact h.unique hshows hmode
  · rintro rfl
    exact hshows

/-! ## Tables -/

/-- One value is taken everywhere in a list exactly if no two values differ. -/
lemma exists_forall_eq_iff {α β : Type} [Nonempty β] {xs : List α} {f : α → β} :
    (∃ b, ∀ x ∈ xs, f x = b) ↔ ∀ x ∈ xs, ∀ y ∈ xs, f x = f y := by
  constructor
  · rintro ⟨b, hb⟩ x hx y hy
    rw [hb x hx, hb y hy]
  · intro h
    cases xs with
    | nil => exact ⟨Classical.arbitrary β, by simp⟩
    | cons x xs => exact ⟨f x, fun y hy => h y hy x List.mem_cons_self⟩

/-- Numbers that are filled up to `n` agree if none of them exceeds `n`, or if they agree without
that. -/
lemma forall_max_eq_iff {α : Type} {xs : List α} {f : α → Nat} {n : Nat} :
    (∀ x ∈ xs, ∀ y ∈ xs, max n (f x) = max n (f y)) ↔
      (∀ x ∈ xs, f x ≤ n) ∨ ∃ k, ∀ x ∈ xs, f x = k := by
  constructor
  · intro h
    by_cases hlong : ∃ y ∈ xs, n < f y
    · obtain ⟨y, hy, hlong⟩ := hlong
      refine .inr ⟨f y, fun x hx => ?_⟩
      have hsame := h x hx y hy
      omega
    · refine .inl fun x hx => ?_
      by_contra hx'
      exact hlong ⟨x, hx, by omega⟩
  · rintro (h | ⟨k, h⟩) x hx y hy
    · have hx := h x hx
      have hy := h y hy
      omega
    · rw [h x hx, h y hy]

section Tables

variable {column : Nat} {rs : List Register}

/-- Lines are aligned exactly if their addresses have equally many characters. -/
lemma aligned_map_registerLine_iff (hlabels : ∀ r ∈ rs, r.label.length ≤ column)
    (hmodes : ∀ r ∈ rs, r.mode.isKnown = true) :
    Aligned rs (rs.map (registerLine column)) ↔
      ∀ r ∈ rs, ∀ s ∈ rs, addressCharacters r = addressCharacters s := by
  have hshows (c : Columns) : List.Forall₂ c.Shows rs (rs.map (registerLine column)) ↔
      ∀ r ∈ rs, tableColumns column r = c := by
    rw [List.forall₂_map_right_iff, List.forall₂_same]
    exact forall₂_congr fun r hr =>
      (shows_registerLine_iff (hlabels r hr) (hmodes r hr) c).trans eq_comm
  have hcolumns (r s : Register) : tableColumns column r = tableColumns column s ↔
      addressCharacters r = addressCharacters s := by
    constructor
    · intro hsame
      have hlabel := congrArg Columns.label hsame
      simp only [tableColumns] at hlabel
      omega
    · intro hsame
      rw [tableColumns, tableColumns, hsame]
  have : Nonempty Columns := ⟨⟨0, 0, 0⟩⟩
  simp only [Aligned, hshows, exists_forall_eq_iff, hcolumns]

/-- Addresses have equally many characters if four digits are enough for each of them, or if they
all have equally many digits. -/
lemma addressCharacters_eq_iff :
    (∀ r ∈ rs, ∀ s ∈ rs, addressCharacters r = addressCharacters s) ↔
      (∀ r ∈ rs, r.address.toNat < 16 ^ 4) ∨
        ∃ k, ∀ r ∈ rs, (digits 16 r.address.toNat).length = k := by
  have hshort (r : Register) :
      r.address.toNat < 16 ^ 4 ↔ (digits 16 r.address.toNat).length ≤ 4 :=
    (Numeral.length_digits_le_iff (by decide) (by decide)).symm
  simp only [hshort, addressCharacters]
  exact forall_max_eq_iff

end Tables

/-- **When a register table is aligned.** With known modes every line shows its register, and all of
them from the same positions on exactly if four digits are enough for each address or all addresses
have equally many digits. -/
theorem registerTable_aligned_iff {moduleName : String} {registers : List Register} {bits : UInt32}
    {p : Plan} (h : plan moduleName registers bits = .ok p) (hcolumn : p.labelColumn ≤ 65535)
    (hmodes : ∀ r ∈ registers, r.mode.isKnown = true) (sorting : Sorting) :
    ∃ lines, registerTable p sorting = .ok lines ∧
      List.Forall₂ (fun r line => (tableColumns p.labelColumn r).Shows r line)
        (p.sorted sorting) lines ∧
      (Aligned (p.sorted sorting) lines ↔
        (∀ r ∈ registers, r.address.toNat < 16 ^ 4) ∨
          ∃ k, ∀ r ∈ registers, (digits 16 r.address.toNat).length = k) := by
  obtain ⟨-, rfl, -⟩ := plan_eq_ok h
  have hmem (r : Register) : r ∈ p.sorted sorting ↔ r ∈ p.registers :=
    (p.perm_sorted sorting).mem_iff
  have hlabels : ∀ r ∈ p.sorted sorting, r.label.length ≤ p.labelColumn :=
    fun r hr => labelWidth_le_longestLabel ((hmem r).mp hr)
  have hmodes : ∀ r ∈ p.sorted sorting, r.mode.isKnown = true :=
    fun r hr => hmodes r ((hmem r).mp hr)
  refine ⟨_, registerTable_eq_ok hcolumn sorting, ?_, ?_⟩
  · rw [List.forall₂_map_right_iff, List.forall₂_same]
    exact fun r hr => shows_registerLine (hlabels r hr) (hmodes r hr)
  · rw [aligned_map_registerLine_iff hlabels hmodes, addressCharacters_eq_iff]
    simp only [hmem]

/-- Addresses of five digits each, in lines that are aligned. -/
theorem registerTable_aligned_wide :
    ∃ p, plan "m" [⟨0xfffff, "top", ⟨"stat"⟩, 3, by decide⟩,
        ⟨0x10000, "a b", ⟨"ctrl"⟩, 0xffff, by decide⟩] 16 = .ok p ∧
      ∃ lines, registerTable p .address = .ok lines ∧ Aligned (p.sorted .address) lines := by
  obtain ⟨p, hp⟩ : ∃ p, plan "m" [⟨0xfffff, "top", ⟨"stat"⟩, 3, by decide⟩,
      ⟨0x10000, "a b", ⟨"ctrl"⟩, 0xffff, by decide⟩] 16 = .ok p := ⟨_, rfl⟩
  have hcolumn : p.labelColumn ≤ 65535 := by
    rw [labelColumn_of_plan hp]
    decide
  obtain ⟨lines, htable, -, haligned⟩ :=
    registerTable_aligned_iff hp hcolumn (by decide) .address
  exact ⟨p, hp, lines, htable, haligned.mpr (.inr ⟨5, by decide⟩)⟩

/-- Registers of known modes of which one has an address of five digits. -/
def distantRegisters : List Register := [
  ⟨0, "a", ⟨"ctrl"⟩, 0, by decide⟩,
  ⟨0x10000, "b", ⟨"stat"⟩, 0, by decide⟩]

/-- Their table is not aligned: the longer address pushes its line to the right. -/
theorem registerTable_not_aligned :
    ∃ p, plan "m" distantRegisters 32 = .ok p ∧ p.labelColumn ≤ 65535 ∧
      (∀ r ∈ distantRegisters, r.mode.isKnown = true) ∧
      ∃ lines, lines = ["0x0000 a ctrl 0x0", "0x10000 b stat 0x0"] ∧
        registerTable p .preserve = .ok lines ∧ ¬ Aligned (p.sorted .preserve) lines := by
  obtain ⟨p, hp⟩ : ∃ p, plan "m" distantRegisters 32 = .ok p := ⟨_, rfl⟩
  obtain ⟨-, hregisters, -⟩ := plan_eq_ok hp
  have hcolumn : p.labelColumn = 1 := by
    rw [labelColumn_of_plan hp]
    decide
  have hlines : ["0x0000 a ctrl 0x0", "0x10000 b stat 0x0"] =
      distantRegisters.map (registerLine 1) := by
    cbv
  refine ⟨p, hp, by omega, by decide, _, rfl, ?_, ?_⟩
  · rw [registerTable_eq_ok (by omega), hcolumn, Plan.sorted, hregisters, hlines]
  · rw [Plan.sorted, hregisters, hlines, aligned_map_registerLine_iff (by decide) (by decide)]
    decide

end RegisterFile

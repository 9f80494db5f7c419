import RegisterFile.Proofs.TableColumns

set_option autoImplicit false

/-!
# The column of labels

Labels are measured in one place and filled up in two others: planning measures the longest one, a
filter of templates fills up a label to a width, and a register table fills up the labels of its
lines. All three count characters and not bytes. So they agree on every label: the filter, given the
planned width, makes of a label the very text that stands in the column of labels of its line.

## Main definitions

* `Template.justify` - the filter, given a width and nothing else.
* `IsFilledUp` - a text is another one with spaces behind it.
* `readLine?` - the address and the column of labels of a line.

## Main results

* `isGreatest_labelColumn` - the column is as wide as the longest label.
* `Template.justify_text`, `Template.justify_justify` - what the filter makes of a text, once and
  twice.
* `readLine?_registerLine` - what stands in the column of labels of a register's line.
* `labels_padded_alike` - the planned width, the filter and the lines of a table agree.
-/

namespace RegisterFile

/-! ## The width of the column -/

/-- The longest label of the registers of a plan is as wide as the column. -/
theorem isGreatest_labelColumn (p : Plan) :
    IsGreatest {n | ∃ r ∈ p.registers, r.label.length = n} p.labelColumn := by
  refine ⟨exists_labelWidth_eq_longestLabel p.admissible.nonempty, ?_⟩
  rintro n ⟨r, hr, rfl⟩
  exact labelWidth_le_longestLabel hr

/-- The column is not empty, since no label is. -/
lemma labelColumn_pos (p : Plan) : 1 ≤ p.labelColumn := by
  obtain ⟨r, -, hlength⟩ := (isGreatest_labelColumn p).1
  rw [← hlength, Nat.one_le_iff_ne_zero, ne_eq, String.length_eq_zero_iff]
  exact r.label_ne

/-! ## The filter -/

/-- A text with nothing but spaces behind it. -/
def IsFilledUp (s t : String) : Prop := ∃ k, t.toList = s.toList ++ List.replicate k ' '

/-- Filling up a text puts spaces behind it. -/
lemma isFilledUp_padEnd (width : Nat) (s : String) : IsFilledUp s (Text.padEnd width s) :=
  ⟨_, Text.toList_padEnd width s⟩

namespace Template

/-- The filter that fills up texts, given a width. -/
def justify (width : Nat) (v : Value) : Except FilterStop Value :=
  ljust v [("width", .integer width)]

variable {m n : Nat}

/-- The filter fills up a text to a width that no field exceeds. -/
theorem justify_text (hn : n ≤ Text.widestField) (s : String) :
    justify n (.text s) = .ok (.text (Text.padEnd n s)) :=
  ljust_eq_ok rfl hn s

/-- The filter twice fills up a text to the greater width. -/
theorem justify_justify (hm : m ≤ Text.widestField) (hn : n ≤ Text.widestField) (s : String) :
    (justify m (.text s) >>= justify n) = justify (max m n) (.text s) := by
  rw [justify_text hm, ok_bind, justify_text hn, Text.padEnd_padEnd,
    justify_text (Nat.max_le.mpr ⟨hm, hn⟩)]

end Template

/-! ## Lines -/

/-- What a line has in front of its first space, and the column of labels of so many characters
behind that space, if it ends in front of another one. -/
def readLine? (column : Nat) (line : String) : Option (String × String) :=
  let address := line.toList.takeWhile (· ≠ ' ')
  let behind := (line.toList.dropWhile (· ≠ ' ')).tail
  if behind[column]? = some ' ' then
    some (String.ofList address, String.ofList (behind.take column))
  else
    none

/-- A line that starts with an address, a space, the column of labels and a space. -/
lemma readLine?_of_toList {line address field : String} {rest : List Char}
    (haddress : ' ' ∉ address.toList)
    (hline : line.toList = address.toList ++ ' ' :: (field.toList ++ ' ' :: rest)) :
    readLine? field.length line = some (address, field) := by
  obtain ⟨hfront, hbehind⟩ := cut_append_space haddress (field.toList ++ ' ' :: rest)
  rw [readLine?, hline, hfront, hbehind, List.tail_cons, ← String.length_toList]
  simp

/-- **What stands in the column of labels of a register's line**: the label, filled up to the
column. -/
theorem readLine?_registerLine {column : Nat} {r : Register} (hlabel : r.label.length ≤ column) :
    readLine? column (registerLine column r) =
      some (Numeral.paddedHex 6 r.address.toNat, Text.padEnd column r.label) := by
  have hline : (registerLine column r).toList =
      (Numeral.paddedHex 6 r.address.toNat).toList ++ ' ' :: ((Text.padEnd column r.label).toList ++
        ' ' :: (Text.padEnd 4 r.mode.tag ++ " " ++ Numeral.hex r.initval.toNat).toList) := by
    simp [registerLine]
  have hread := readLine?_of_toList (space_notMem_paddedHex _ _) hline
  rwa [Text.length_padEnd, Nat.max_eq_left hlabel] at hread

/-! ## Agreement -/

/-- **Labels are filled up alike everywhere.** The column of a plan is as wide as its longest label,
in characters. Given that width, the filter makes of each label a text of exactly that width, which
is the label with spaces behind it and the label itself exactly if no label is longer; and in every
order, that text stands in the column of labels of the register's line in the register table. Of two
widths that the filter is given one after the other, the greater one shows.

**Proof sketch.** The filter and the lines of a table fill up texts by `Text.padEnd`, whose outcome
is as wide as its text or its width in characters (`Text.length_padEnd`). The column is as wide as
the longest label, so that no label exceeds it, and the column of a line is found behind its first
space, since no address has one. -/
theorem labels_padded_alike :
    (∀ (moduleName : String) (registers : List Register) (bits : UInt32) (p : Plan),
      plan moduleName registers bits = .ok p → p.labelColumn ≤ 65535 →
        1 ≤ p.labelColumn ∧
        IsGreatest {n | ∃ r ∈ registers, r.label.length = n} p.labelColumn ∧
        (∀ r ∈ registers, ∃ padded,
          Template.justify p.labelColumn (.text r.label) = .ok (.text padded) ∧
          padded.length = p.labelColumn ∧ IsFilledUp r.label padded ∧
          (padded = r.label ↔ ∀ s ∈ registers, s.label.length ≤ r.label.length)) ∧
        ∀ sorting, (p.sorted sorting).Perm registers ∧
          ∃ lines, registerTable p sorting = .ok lines ∧
            List.Forall₂ (fun r line => ∃ padded,
              Template.justify p.labelColumn (.text r.label) = .ok (.text padded) ∧
              readLine? p.labelColumn line =
                some (Numeral.paddedHex 6 r.address.toNat, padded)) (p.sorted sorting) lines) ∧
      ∀ (s : String) (m n : Nat), m ≤ 65535 → n ≤ 65535 →
        (Template.justify m (.text s) >>= Template.justify n) =
            Template.justify (max m n) (.text s) ∧
          ∃ padded, Template.justify (max m n) (.text s) = .ok (.text padded) ∧
            padded.length = max (max m n) s.length ∧ IsFilledUp s padded := by
  refine ⟨?_, fun s m n hm hn => ?_⟩
  · intro moduleName registers bits p hplan hcolumn
    obtain ⟨-, rfl, -⟩ := plan_eq_ok hplan
    have hjustify (r : Register) := Template.justify_text hcolumn r.label
    have hlabel : ∀ r ∈ p.registers, r.label.length ≤ p.labelColumn :=
      (labelColumn_le_iff p _).mp le_rfl
    refine ⟨labelColumn_pos p, isGreatest_labelColumn p, fun r hr => ?_, fun sorting => ?_⟩
    · refine ⟨_, hjustify r, ?_, isFilledUp_padEnd _ _, ?_⟩
      · rw [Text.length_padEnd, Nat.max_eq_left (hlabel r hr)]
      · rw [Text.padEnd_eq_self_iff, labelColumn_le_iff]
    · have hperm := p.perm_sorted sorting
      refine ⟨hperm, _, registerTable_eq_ok hcolumn sorting, ?_⟩
      rw [List.forall₂_map_right_iff, List.forall₂_same]
      exact fun r hr =>
        ⟨_, hjustify r, readLine?_registerLine (hlabel r (hperm.mem_iff.mp hr))⟩
  · exact ⟨Template.justify_justify hm hn s, _, Template.justify_text (Nat.max_le.mpr ⟨hm, hn⟩) s,
      Text.length_padEnd _ s, isFilledUp_padEnd _ s⟩

/-- Registers whose longest label in bytes is not the longest one in characters. -/
def multibyteRegisters : List Register := [
  ⟨0x10000, "日本", ⟨"ctrl"⟩, 0, by decide⟩,
  ⟨1, "ö", ⟨"stat"⟩, 0, by decide⟩,
  ⟨2, "a b", ⟨"trig"⟩, 7, by decide⟩]

/-- Their labels are filled up to three characters, by the filter and in the table. -/
theorem labels_padded_alike_multibyte :
    (∃ p, plan "m" multibyteRegisters 32 = .ok p ∧ p.labelColumn = 3 ∧
      (∃ padded, Template.justify 3 (.text "日本") = .ok (.text padded) ∧ padded.length = 3 ∧
        padded ≠ "日本") ∧
      registerTable p .address =
        .ok ["0x0001 ö   stat 0x0", "0x0002 a b trig 0x7", "0x10000 日本  ctrl 0x0"] ∧
      List.Forall₂ (fun r line => ∃ padded,
        Template.justify 3 (.text r.label) = .ok (.text padded) ∧
        readLine? 3 line = some (Numeral.paddedHex 6 r.address.toNat, padded)) (p.sorted .address)
          ["0x0001 ö   stat 0x0", "0x0002 a b trig 0x7", "0x10000 日本  ctrl 0x0"]) ∧
      ∃ padded, (Template.justify 2 (.text "ö") >>= Template.justify 4) = .ok (.text padded) ∧
        padded.length = 4 ∧ IsFilledUp "ö" padded := by
  obtain ⟨hplans, htwice⟩ := labels_padded_alike
  constructor
  · obtain ⟨p, hp⟩ : ∃ p, plan "m" multibyteRegisters 32 = .ok p := ⟨_, rfl⟩
    have hcolumn : p.labelColumn = 3 := by
      rw [labelColumn_of_plan hp]
      decide
    have htable : registerTable p .address =
        .ok ["0x0001 ö   stat 0x0", "0x0002 a b trig 0x7", "0x10000 日本  ctrl 0x0"] := by
      cases hp
      cbv
    obtain ⟨-, -, hlabels, hlines⟩ := hplans "m" multibyteRegisters 32 p hp (by omega)
    obtain ⟨padded, hpadded, hlength, -, hequal⟩ :=
      hlabels ⟨0x10000, "日本", ⟨"ctrl"⟩, 0, by decide⟩ (by decide)
    obtain ⟨-, lines, hok, hread⟩ := hlines .address
    obtain rfl := Except.ok.inj (htable.symm.trans hok)
    rw [hcolumn] at hpadded hlength hread
    refine ⟨p, hp, hcolumn, ⟨padded, hpadded, hlength, fun hsame => ?_⟩, htable, hread⟩
    exact absurd (hequal.mp hsame) (by decide)
  · obtain ⟨hjustify, padded, hpadded, hlength, hfilled⟩ :=
      htwice "ö" 2 4 (by decide) (by decide)
    exact ⟨padded, hjustify.trans hpadded, hlength, hfilled⟩

end RegisterFile

import RegisterFile.Proofs.GenerationLimits
import RegisterFile.Proofs.TableColumns
import RegisterFile.Proofs.Vhdl.DeclaredNames

set_option autoImplicit false

/-!
# The columns of constants

Three sections of a register file name the constants of registers in the column of labels: the
constants for indices, the values on reset, and the flags of the registers that the bus writes.
Behind the column a separator stands in front of what belongs to the constant.

The column is as wide as the longest label, but a constant is named by the label in upper case,
which may have more characters than the label itself. A constant that is longer than the column
pushes its separator to the right. So the separators of a section are aligned exactly if no label of
its registers is longer in upper case than the column is wide, or if they all are equally long in
upper case. For identifiers that is so; in general it is not.

## Main definitions

* `position?`, `AlignedAt` - where a separator stands in a line, and when it stands at one position
  in all of some lines.
* `isPlainLabel` - a label without white space and without characters of separators.
* `Vhdl.ConstantColumn`, `Vhdl.Section.constantColumn?` - what stands around the constants of a
  section.
* `Plan.constantLengths` - how long the labels of a section are in upper case.

## Main results

* `Plan.position?_line` - where the separator of a line stands.
* `constants_aligned_iff` - when the separators of a section are aligned.
* `Plan.alignedAt_of_isIdentifier` - they are where labels are identifiers.
* `constants_not_aligned` - labels for which they are not.
-/

namespace RegisterFile

open Vhdl

/-! ## Positions -/

/-- The position, in characters, at which a separator stands first. -/
def position? (separator : List Char) : List Char → Option Nat
  | [] => none
  | c :: cs =>
    if separator.isPrefixOf (c :: cs) then some 0 else (position? separator cs).map (· + 1)

/-- A separator stands at one position in all lines. -/
def AlignedAt (separator : List Char) (lines : List String) : Prop :=
  ∃ n, ∀ line ∈ lines, position? separator line.toList = some n

/-- A separator stands behind what does not have its first character. -/
lemma position?_append {front : List Char} {c : Char} (hfront : c ∉ front)
    (cs back : List Char) :
    position? (c :: cs) (front ++ (c :: cs ++ back)) = some front.length := by
  induction front with
  | nil => simp [position?, List.isPrefixOf_iff_prefix]
  | cons d front ih =>
    obtain ⟨hd, hfront⟩ : c ≠ d ∧ c ∉ front := by simpa using hfront
    rw [List.cons_append, position?, ih hfront]
    simp [List.isPrefixOf, hd]

/-! ## Labels -/

/-- A label without white space and without characters of separators. -/
def isPlainLabel (s : String) : Bool :=
  s.toList.all fun c => !Text.isBlank c && c ∉ [':', '=', '>']

/-- A plain label has no line break and no character that starts a separator, and neither has its
upper case. -/
lemma notMem_uppercase_of_isPlainLabel {s : String} (hs : isPlainLabel s = true) {c : Char}
    (hc : c ∈ ['\n', ':', '=']) : c ∉ s.toList ∧ c ∉ (Text.uppercase s).toList := by
  simp only [List.mem_cons, List.not_mem_nil, or_false] at hc
  have hcapital : Text.mayBeCapital c.toNat = false := by
    rcases hc with rfl | rfl | rfl <;> decide
  have hmem : c ∉ s.toList := by
    intro h
    obtain ⟨hblank, hseparator⟩ : Text.isBlank c = false ∧ c ∉ [':', '=', '>'] := by
      simpa using List.all_eq_true.mp hs c h
    rcases hc with rfl | rfl | rfl
    · exact absurd hblank (by decide)
    · exact hseparator (by decide)
    · exact hseparator (by decide)
  exact ⟨hmem, Text.notMem_uppercase hcapital hmem⟩

/-- Identifiers are plain. -/
lemma isPlainLabel_of_isIdentifier {s : String} (hs : isIdentifier s = true) :
    isPlainLabel s = true := by
  refine List.all_eq_true.mpr fun c hc => ?_
  have hname := isNameChar_of_mem hs hc
  refine Text.forall_ascii (P := fun c => isNameChar c = true →
    (!Text.isBlank c && c ∉ [':', '=', '>']) = true) ?_ (toNat_lt_of_isNameChar hname) hname
  decide

/-! ## Lines -/

/-- What stands around the constants of registers in the lines of a section. -/
structure Vhdl.ConstantColumn where
  /-- What a line has in front of the label. -/
  start : String
  /-- What stands behind the column and a space. -/
  separator : List Char

/-- What stands around the constants of registers in the sections that name them in the column of
labels. -/
def Vhdl.Section.constantColumn? : Section → Option ConstantColumn
  | .indices => some ⟨"  constant C_", [':']⟩
  | .resetValues => some ⟨"    C_", ['=', '>']⟩
  | .writable => some ⟨"    C_", ['=', '>']⟩
  | .header | .ports | .clears | .overrides | .outputs => none

section

variable {s : Section} {c : ConstantColumn} (hs : s.constantColumn? = some c)

include hs

/-- A separator starts with a character that is not in front of the label. -/
lemma Vhdl.Section.exists_separator_eq : ∃ d ds, c.separator = d :: ds ∧ d ∈ [':', '='] ∧
    d ∉ c.start.toList := by
  cases s with
  | indices | resetValues | writable =>
    obtain rfl := Option.some.inj hs
    exact ⟨_, _, rfl, by decide, notMem_toList rfl (by decide)⟩
  | header | ports | clears | overrides | outputs => cases hs

/-- A section that names constants is not the header. -/
lemma Vhdl.Section.ne_header : s ≠ .header := by
  rintro rfl
  cases hs

namespace Plan

variable (p : Plan)

/-- The label in upper case, filled up to the column, stands between the start of a line and the
separator. -/
lemma exists_line_eq (r : Register) : ∃ rest, (p.line r s).toList =
    c.start.toList ++ ((Text.uppercase r.label).toList ++
      (List.replicate (p.labelColumn - (Text.uppercase r.label).length) ' ' ++
        ' ' :: (c.separator ++ rest))) := by
  have hname := r.toList_constantName
  cases s with
  | indices =>
    obtain rfl := Option.some.inj hs
    obtain ⟨rest, hline⟩ := p.exists_line_indices_eq r
    exact ⟨rest, by rw [hline, hname]; rfl⟩
  | resetValues =>
    obtain rfl := Option.some.inj hs
    obtain ⟨rest, hline⟩ := p.exists_line_arrow_eq r (.inl rfl)
    exact ⟨rest, by rw [hline, hname]; rfl⟩
  | writable =>
    obtain rfl := Option.some.inj hs
    obtain ⟨rest, hline⟩ := p.exists_line_arrow_eq r (.inr rfl)
    exact ⟨rest, by rw [hline, hname]; rfl⟩
  | header | ports | clears | overrides | outputs => cases hs

/-- **Where the separator of a line stands.** -/
theorem position?_line {r : Register} (hlabel : isPlainLabel r.label = true) :
    position? c.separator (p.line r s).toList =
      some (c.start.length + max p.labelColumn (Text.uppercase r.label).length + 1) := by
  obtain ⟨d, ds, hseparator, hd, hstart⟩ := Section.exists_separator_eq hs
  obtain ⟨rest, hline⟩ := p.exists_line_eq hs r
  have hlabel' := (notMem_uppercase_of_isPlainLabel hlabel (List.mem_cons_of_mem _ hd)).2
  have hspace : d ≠ ' ' := by
    rintro rfl
    exact absurd hd (by decide)
  have hfront : d ∉ c.start.toList ++ ((Text.uppercase r.label).toList ++
      (List.replicate (p.labelColumn - (Text.uppercase r.label).length) ' ' ++ [' '])) := by
    simp [hstart, hlabel', hspace]
  have hposition := position?_append hfront ds rest
  simp only [List.append_assoc, List.length_append, List.length_replicate, List.length_singleton,
    String.length_toList] at hposition
  rw [hline, hseparator]
  refine hposition.trans (congrArg some ?_)
  omega

end Plan

end

/-! ## Sections -/

/-- How many characters the labels of a section's registers have in upper case. -/
def Plan.constantLengths (p : Plan) (s : Section) : List Nat :=
  (p.registers.filter fun r => s.admits r.mode.access?).map fun r =>
    (Text.uppercase r.label).length

namespace Plan

variable {p : Plan} (hlabels : ∀ r ∈ p.registers, isPlainLabel r.label = true) {s : Section}
  {c : ConstantColumn} (hs : s.constantColumn? = some c)

include hlabels hs

/-- The separators of a section are aligned exactly if no label of its registers is longer in upper
case than the column is wide, or if they all are equally long in upper case. -/
lemma alignedAt_sectionLines_iff :
    AlignedAt c.separator (p.sectionLines s) ↔
      (∀ n ∈ p.constantLengths s, n ≤ p.labelColumn) ∨
        ∃ k, ∀ n ∈ p.constantLengths s, n = k := by
  have hlines (n : Nat) :
      (∀ line ∈ p.sectionLines s, position? c.separator line.toList = some n) ↔
        ∀ k ∈ p.constantLengths s, c.start.length + max p.labelColumn k + 1 = n := by
    simp only [sectionLines, constantLengths, List.forall_mem_map]
    refine forall₂_congr fun r hr => ?_
    rw [p.position?_line hs (hlabels r (List.mem_of_mem_filter hr)), Option.some.injEq]
  rw [AlignedAt, exists_congr hlines, exists_forall_eq_iff]
  simp only [Nat.add_right_cancel_iff, Nat.add_left_cancel_iff]
  exact forall_max_eq_iff

omit hlabels in
/-- The separators of a section are aligned where labels are identifiers, which are as long in upper
case as they are. -/
theorem alignedAt_of_isIdentifier (hidentifiers : ∀ r ∈ p.registers, isIdentifier r.label = true) :
    AlignedAt c.separator (p.sectionLines s) := by
  have hplain : ∀ r ∈ p.registers, isPlainLabel r.label = true :=
    fun r hr => isPlainLabel_of_isIdentifier (hidentifiers r hr)
  refine (alignedAt_sectionLines_iff hplain hs).mpr (.inl ?_)
  simp only [constantLengths, List.forall_mem_map]
  intro r hr
  have hr := List.mem_of_mem_filter hr
  have hlength : (Text.uppercase r.label).length = r.label.length := by
    rw [← String.length_toList, toList_uppercase (hidentifiers r hr), List.length_map,
      String.length_toList]
  rw [hlength]
  exact labelWidth_le_longestLabel hr

end Plan

/-- Plain labels, their upper case and known modes have no line breaks. -/
lemma unbroken_of_isPlainLabel {r : Register} (hlabel : isPlainLabel r.label = true)
    (hmode : r.mode.isKnown = true) :
    Unbroken r.label ∧ Unbroken (Text.uppercase r.label) ∧ Unbroken r.mode.tag := by
  obtain ⟨hword, hupper⟩ := @notMem_uppercase_of_isPlainLabel _ hlabel '\n' List.mem_cons_self
  exact ⟨hword, hupper, Mode.unbroken_tag hmode⟩

/-- **When the constants of a register file are aligned.** The standard template has a text for
every plan of registers of at most `2 ^ 17` bits whose labels are plain and have at most 65535
characters and whose modes are known. In each section that names constants in the column of labels,
the lines of its registers stand behind the heading, and their separators are at one position
exactly if no label of them is longer in upper case than the column is wide, or if they all are
equally long in upper case.

**Proof sketch.** Upper case brings neither line breaks nor separators into a label. So the lines of
a section are lines of the text, and the separator of a line stands behind the start of the line,
the label in upper case and what fills it up to the column (`Plan.position?_line`). -/
theorem constants_aligned_iff {moduleName : String} {registers : List Register} {bits : UInt32}
    {p : Plan} (h : plan moduleName registers bits = .ok p)
    (hlabels : ∀ r ∈ registers, isPlainLabel r.label = true ∧ r.label.length ≤ 65535)
    (hmodes : ∀ r ∈ registers, r.mode.isKnown = true) :
    ∃ renderer, Renderer.standard = .ok renderer ∧
      EndsWithin Failure.tooWide (bits.toNat ≤ 2 ^ 17) (renderer.render p).outcome ∧
      ∀ text, (renderer.render p).outcome = .ok text →
        ∀ s c, s.constantColumn? = some c →
          s.heading.toList :: (p.sectionLines s).map String.toList <:+:
            text.toList.splitOn '\n' ∧
          (AlignedAt c.separator (p.sectionLines s) ↔
            (∀ n ∈ p.constantLengths s, n ≤ p.labelColumn) ∨
              ∃ k, ∀ n ∈ p.constantLengths s, n = k) := by
  obtain ⟨-, rfl, hwidth⟩ := plan_eq_ok h
  have hfits : Fits p ↔ bits.toNat ≤ 2 ^ 17 := by
    rw [fits_iff, hwidth]
    exact and_iff_left fun r hr => (hlabels r hr).2
  refine ⟨_, Renderer.standard_eq,
    (Renderer.standard_endsWithin Renderer.standard_eq p).congr hfits, ?_⟩
  intro text htext s c hs
  obtain rfl := Renderer.eq_registerFileText Renderer.standard_eq htext
  constructor
  · exact p.sectionLines_infix (Section.ne_header hs) fun r hr =>
      unbroken_of_isPlainLabel (hlabels r hr).1 (hmodes r hr)
  · exact p.alignedAt_sectionLines_iff (fun r hr => (hlabels r hr).1) hs

/-- A label that is longer in upper case, in a column that is wide enough for that. -/
theorem constants_aligned_eszett :
    ∃ p renderer text, plan "m" [⟨0, "ß", ⟨"ctrl"⟩, 0, by decide⟩,
        ⟨1, "abc", ⟨"stat"⟩, 0xff, by decide⟩] 32 = .ok p ∧
      Renderer.standard = .ok renderer ∧ (renderer.render p).outcome = .ok text ∧
      ∀ s c, s.constantColumn? = some c →
        s.heading.toList :: (p.sectionLines s).map String.toList <:+: text.toList.splitOn '\n' ∧
          AlignedAt c.separator (p.sectionLines s) := by
  obtain ⟨p, hp⟩ : ∃ p, plan "m" [⟨0, "ß", ⟨"ctrl"⟩, 0, by decide⟩,
      ⟨1, "abc", ⟨"stat"⟩, 0xff, by decide⟩] 32 = .ok p := ⟨_, rfl⟩
  obtain ⟨-, hregisters, -⟩ := plan_eq_ok hp
  obtain ⟨renderer, hrenderer, hends, hlines⟩ :=
    constants_aligned_iff hp (by decide +kernel) (by decide)
  obtain ⟨text, htext⟩ := hends.exists_ok_iff.mpr (by decide)
  refine ⟨p, renderer, text, hp, hrenderer, htext, fun s c hs => ?_⟩
  obtain ⟨hsection, haligned⟩ := hlines text htext s c hs
  refine ⟨hsection, haligned.mpr (.inl ?_)⟩
  have hcolumn : p.labelColumn = 3 := by
    rw [labelColumn_of_plan hp]
    decide
  have hshort : ∀ r ∈ p.registers, (Text.uppercase r.label).length ≤ 3 := by
    rw [hregisters]
    decide +kernel
  simp only [Plan.constantLengths, List.forall_mem_map, hcolumn]
  exact fun r hr => hshort r (List.mem_of_mem_filter hr)

/-- Registers of known modes of which one has a label that is longer in upper case than all labels
are. -/
def wideningRegisters : List Register := [
  ⟨0, "ß", ⟨"ctrl"⟩, 0, by decide⟩,
  ⟨1, "y", ⟨"ctrl"⟩, 0, by decide⟩]

/-- Their constants are not aligned in any section that names them: the label that is longer in
upper case pushes its separator to the right. -/
theorem constants_not_aligned :
    ∃ p renderer text, plan "m" wideningRegisters 32 = .ok p ∧
      (∀ r ∈ wideningRegisters, isPlainLabel r.label = true ∧ r.label.length ≤ 65535) ∧
      (∀ r ∈ wideningRegisters, r.mode.isKnown = true) ∧
      Renderer.standard = .ok renderer ∧ (renderer.render p).outcome = .ok text ∧
      p.sectionLines .indices =
        ["  constant C_SS : integer := 0;", "  constant C_Y : integer := 1;"] ∧
      ∀ s c, s.constantColumn? = some c →
        s.heading.toList :: (p.sectionLines s).map String.toList <:+: text.toList.splitOn '\n' ∧
          ¬ AlignedAt c.separator (p.sectionLines s) := by
  obtain ⟨p, hp, hindices⟩ : ∃ p, plan "m" wideningRegisters 32 = .ok p ∧
      p.sectionLines .indices =
        ["  constant C_SS : integer := 0;", "  constant C_Y : integer := 1;"] := ⟨_, rfl, by cbv⟩
  obtain ⟨-, hregisters, hbits⟩ := plan_eq_ok hp
  have hlabels : ∀ r ∈ wideningRegisters, isPlainLabel r.label = true ∧ r.label.length ≤ 65535 := by
    decide +kernel
  have hmodes : ∀ r ∈ wideningRegisters, r.mode.isKnown = true := by decide
  have hfits : Fits p := by
    rw [fits_iff, hregisters, hbits]
    exact ⟨by decide, fun r hr => (hlabels r hr).2⟩
  have hcolumn : p.labelColumn = 1 := by
    rw [labelColumn_of_plan hp]
    decide
  obtain ⟨renderer, hrenderer, htext⟩ := p.exists_standard_render hfits
  refine ⟨p, renderer, _, hp, hlabels, hmodes, hrenderer, htext, hindices, fun s c hs => ⟨?_, ?_⟩⟩
  · refine p.sectionLines_infix (Section.ne_header hs) ?_
    rw [hregisters]
    exact fun r hr => unbroken_of_isPlainLabel (hlabels r hr).1 (hmodes r hr)
  · have hplain : ∀ r ∈ p.registers, isPlainLabel r.label = true := by
      rw [hregisters]
      exact fun r hr => (hlabels r hr).1
    have hlengths : p.constantLengths s = [2, 1] := by
      rw [Plan.constantLengths, hregisters]
      cases s with
      | indices | resetValues | writable => decide +kernel
      | header | ports | clears | overrides | outputs => cases hs
    rw [p.alignedAt_sectionLines_iff hplain hs, hlengths, hcolumn]
    rintro (hshort | ⟨k, hequal⟩)
    · exact absurd hshort (by decide)
    · have htwo := hequal 2 (by decide)
      have hone := hequal 1 (by decide)
      omega

end RegisterFile

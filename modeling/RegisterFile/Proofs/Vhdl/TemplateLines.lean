import RegisterFile.Proofs.Numeral
import RegisterFile.Proofs.Text.Padding
import RegisterFile.Proofs.Vhdl.RegisterFileText
import RegisterFile.Proofs.Vhdl.TemplateBody

set_option autoImplicit false

/-!
# The lines of a register file

The text of a register file line by line: the lines of the template's frame, with the values of the
plan in them, and those of the registers in between. Where the values hold no line break these are
the lines of the text.

The template is broken into lines before any value is known. So what the lines say as far as the
template is concerned can be computed, whatever the plan is.

## Main definitions

* `Vhdl.Mark`, `Vhdl.marks` - a character of the template, a value or a section, and the template as
  a sequence of them.
* `Vhdl.TemplateLine`, `Vhdl.templateLines` - the lines of the template.
* `Plan.lines` - the lines of a register file.

## Main results

* `Vhdl.of_spelled` - what is to be computed from the template can be computed from its characters.
* `Plan.intercalate_lines` - the lines make up the text.
* `Plan.splitOn_registerFileText` - the lines are those of the text.
* `Plan.sectionLines_infix` - where the lines of a section stand in the text.
-/

namespace RegisterFile

namespace Vhdl

deriving instance DecidableEq for FrameValue, Section

/-! ## The template as characters -/

/-- What the template consists of. -/
inductive Mark where
  | char (c : Char)
  | value (v : FrameValue)
  /-- The end of the line in front of a section, and the lines of the registers. -/
  | lines (s : Section)
  deriving DecidableEq

/-- The marks of literal text. -/
def textMarks (s : String) : List Mark := s.toList.map .char

/-- The marks of a piece of the frame. -/
def Piece.marks : Piece FrameValue → List Mark
  | .text s => textMarks s
  | .value v => [.value v]

/-- The marks of a part. -/
def Part.marks : Part → List Mark
  | .frame pieces => pieces.flatMap Piece.marks
  | .lines s => textMarks s.heading ++ [.lines s]

/-- The marks of some parts. -/
def marks (parts : List Part) : List Mark := parts.flatMap Part.marks

/-- The marks of some parts, whose literal text is given by its characters. -/
inductive Spelled : List Part → List Mark → Prop where
  | done : Spelled [] []
  | lines {s : Section} {parts : List Part} {ms : List Mark} {cs : List Char}
    (hcs : s.heading = String.ofList cs) (h : Spelled parts ms) :
    Spelled (.lines s :: parts) (cs.map .char ++ .lines s :: ms)
  | frame {parts : List Part} {ms : List Mark} (h : Spelled parts ms) :
    Spelled (.frame [] :: parts) ms
  | text {pieces : List (Piece FrameValue)} {parts : List Part} {ms : List Mark} (cs : List Char)
    (h : Spelled (.frame pieces :: parts) ms) :
    Spelled (.frame (.text (String.ofList cs) :: pieces) :: parts) (cs.map .char ++ ms)
  | value {pieces : List (Piece FrameValue)} {parts : List Part} {ms : List Mark} (v : FrameValue)
    (h : Spelled (.frame pieces :: parts) ms) :
    Spelled (.frame (.value v :: pieces) :: parts) (.value v :: ms)

/-- These are the marks of the parts. -/
lemma Spelled.marks_eq {parts : List Part} {ms : List Mark} (h : Spelled parts ms) :
    marks parts = ms := by
  induction h with
  | done => rfl
  | lines hcs _ ih =>
    rw [← ih]
    simp [marks, Part.marks, textMarks, hcs]
  | frame _ ih => exact ih
  | text cs _ ih =>
    rw [← ih]
    simp [marks, Part.marks, Piece.marks, textMarks]
  | value v _ ih => exact congrArg (Mark.value v :: ·) ih

/-- What holds of the marks that the template is spelled with holds of its marks. The characters of
its literal text are found by unification: reading them off the text is slow. -/
theorem of_spelled {P : List Mark → Prop} {ms : List Mark} (hms : Spelled template ms) (h : P ms) :
    P (marks template) := by
  rwa [hms.marks_eq]

/-! ## Breaking the template into lines -/

/-- A line of the template. -/
inductive TemplateLine where
  | frame (line : List Mark)
  /-- The lines of the registers in a section. -/
  | registers (s : Section)
  deriving DecidableEq

/-- The lines of some marks; `line` holds what stands on the first one in front of them. -/
def linesFrom (line : List Mark) : List Mark → List TemplateLine
  | [] => [.frame line]
  | .lines s :: ms => .frame line :: .registers s :: linesFrom [] ms
  | .char c :: ms =>
    if c = '\n' then .frame line :: linesFrom [] ms else linesFrom (line ++ [.char c]) ms
  | .value v :: ms => linesFrom (line ++ [.value v]) ms

/-- The lines of the standard template. -/
def templateLines : List TemplateLine := linesFrom [] (marks template)

end Vhdl

namespace Plan

open Vhdl (Mark TemplateLine Section Part Piece FrameValue)

variable (p : Plan)

/-- What a mark stands for. -/
def markText : Mark → List Char
  | .char c => [c]
  | .value v => (p.frameValue v).toList
  | .lines s => '\n' :: (String.join ((p.sectionLines s).map (· ++ "\n"))).toList

/-- What some marks stand for. -/
def marksText (ms : List Mark) : List Char := ms.flatMap p.markText

/-- What a line of the template stands for. -/
def lineTexts : TemplateLine → List (List Char)
  | .frame line => [p.marksText line]
  | .registers s => (p.sectionLines s).map String.toList

/-- The lines of the register file of a plan. -/
def lines : List (List Char) := Vhdl.templateLines.flatMap p.lineTexts

/-! ## The lines make up the text -/

/-- Marks one behind the other stand for their texts one behind the other. -/
lemma marksText_append (ms ns : List Mark) :
    p.marksText (ms ++ ns) = p.marksText ms ++ p.marksText ns :=
  List.flatMap_append

/-- Literal text stands for itself. -/
lemma marksText_textMarks (s : String) : p.marksText (Vhdl.textMarks s) = s.toList := by
  rw [marksText, Vhdl.textMarks, List.flatMap_map]
  exact List.flatMap_singleton' _

/-- The marks of some pieces stand for their text. -/
lemma marksText_pieces (pieces : List (Piece FrameValue)) :
    p.marksText (pieces.flatMap Piece.marks) = (Vhdl.piecesText p.frameValue pieces).toList := by
  rw [marksText, List.flatMap_assoc, Vhdl.piecesText, String.toList_join, List.flatMap_map]
  refine congrArg (List.flatMap · pieces) (funext fun piece => ?_)
  cases piece with
  | text s => exact p.marksText_textMarks s
  | value v => exact List.flatMap_singleton _ _

/-- The marks of some parts stand for their text. -/
lemma marksText_marks (parts : List Part) :
    p.marksText (Vhdl.marks parts) = (String.join (parts.map p.partText)).toList := by
  rw [marksText, Vhdl.marks, List.flatMap_assoc, String.toList_join, List.flatMap_map]
  refine congrArg (List.flatMap · parts) (funext fun part => ?_)
  cases part with
  | frame pieces => exact p.marksText_pieces pieces
  | lines s =>
    rw [Part.marks, List.flatMap_append, ← marksText, marksText_textMarks,
      List.flatMap_singleton, partText, String.toList_append, String.toList_append, markText,
      List.append_assoc]
    rfl

/-- The lines of the registers in a section, each in front of a line break. -/
lemma toList_join_sectionLines (s : Section) :
    (String.join ((p.sectionLines s).map (· ++ "\n"))).toList =
      ((p.sectionLines s).map String.toList).flatMap (· ++ ['\n']) := by
  rw [String.toList_join, List.flatMap_map, List.flatMap_map]
  simp

/-- Lines in front of others are separated from them by line breaks. -/
lemma intercalate_append {α : Type} (separator : α) (xs : List (List α)) {ys : List (List α)}
    (hys : ys ≠ []) :
    [separator].intercalate (xs ++ ys) =
      xs.flatMap (· ++ [separator]) ++ [separator].intercalate ys := by
  induction xs with
  | nil => rfl
  | cons x xs ih =>
    rw [List.cons_append, List.intercalate_cons_of_ne_nil (by simp [hys]), ih]
    simp

/-- There is always a last line. -/
lemma lineTexts_linesFrom_ne_nil (line ms : List Mark) :
    (Vhdl.linesFrom line ms).flatMap p.lineTexts ≠ [] := by
  induction ms generalizing line with
  | nil => simp [Vhdl.linesFrom, lineTexts]
  | cons m ms ih =>
    cases m with
    | char c =>
      rw [Vhdl.linesFrom]
      by_cases hc : c = '\n'
      · simp [hc, lineTexts]
      · rw [if_neg hc]
        exact ih _
    | value v => exact ih _
    | lines s => simp [Vhdl.linesFrom, lineTexts]

/-- The lines of some marks make up what the marks stand for. -/
lemma intercalate_linesFrom (line ms : List Mark) :
    ['\n'].intercalate ((Vhdl.linesFrom line ms).flatMap p.lineTexts) =
      p.marksText line ++ p.marksText ms := by
  induction ms generalizing line with
  | nil => simp [Vhdl.linesFrom, lineTexts, marksText]
  | cons m ms ih =>
    have hne := p.lineTexts_linesFrom_ne_nil [] ms
    have hcons : p.marksText (m :: ms) = p.markText m ++ p.marksText ms := List.flatMap_cons
    have hend : p.marksText (line ++ [m]) = p.marksText line ++ p.markText m := by
      rw [marksText_append, marksText, marksText, List.flatMap_singleton]
    rw [hcons, ← List.append_assoc]
    cases m with
    | char c =>
      rw [Vhdl.linesFrom]
      by_cases hc : c = '\n'
      · rw [if_pos hc, List.flatMap_cons, intercalate_append _ _ hne, ih]
        simp [lineTexts, markText, marksText, hc]
      · rw [if_neg hc, ih, hend]
    | value v => rw [Vhdl.linesFrom, ih, hend]
    | lines s =>
      rw [Vhdl.linesFrom, List.flatMap_cons, List.flatMap_cons, ← List.append_assoc,
        intercalate_append _ _ hne, ih, lineTexts, lineTexts, List.singleton_append,
        List.flatMap_cons, ← toList_join_sectionLines, markText]
      simp [marksText]

/-- **The lines of a register file make up its text.** -/
theorem intercalate_lines : ['\n'].intercalate p.lines = p.registerFileText.toList := by
  have h := p.intercalate_linesFrom [] (Vhdl.marks Vhdl.template)
  rwa [marksText_marks, marksText, List.flatMap_nil, List.nil_append] at h

end Plan

/-! ## The lines are those of the text -/

namespace Vhdl

/-- Whether a mark stands within a line. -/
def Mark.IsInline : Mark → Prop
  | .char c => c ≠ '\n'
  | .value _ => True
  | .lines _ => False

/-- The lines of some marks consist of marks within lines. -/
lemma isInline_of_mem_linesFrom {line : List Mark} (ms : List Mark)
    (hline : ∀ m ∈ line, m.IsInline) {l : List Mark} (hl : .frame l ∈ linesFrom line ms) :
    ∀ m ∈ l, m.IsInline := by
  have hend (line : List Mark) (m : Mark) (h : ∀ m ∈ line, m.IsInline) (hm : m.IsInline) :
      ∀ n ∈ line ++ [m], n.IsInline := by
    simpa [List.mem_append, or_imp, forall_and] using ⟨h, hm⟩
  induction ms generalizing line with
  | nil =>
    obtain rfl : l = line := by simpa [linesFrom] using hl
    exact hline
  | cons m ms ih =>
    have hstart := @ih [] (by simp)
    cases m with
    | char c =>
      rw [linesFrom] at hl
      by_cases hc : c = '\n'
      · rw [if_pos hc, List.mem_cons] at hl
        rcases hl with hl | hl
        · rwa [TemplateLine.frame.inj hl]
        · exact hstart hl
      · rw [if_neg hc] at hl
        exact ih (hend line (.char c) hline hc) hl
    | value v => exact ih (hend line (.value v) hline trivial) hl
    | lines s =>
      rw [linesFrom, List.mem_cons, List.mem_cons] at hl
      rcases hl with hl | hl | hl
      · rwa [TemplateLine.frame.inj hl]
      · exact absurd hl (by simp)
      · exact hstart hl

end Vhdl

/-- A text without line breaks. -/
def Unbroken (s : String) : Prop := '\n' ∉ s.toList

/-- Texts one behind the other have no line breaks if none of them has one. -/
lemma unbroken_join_iff {texts : List String} :
    Unbroken (String.join texts) ↔ ∀ s ∈ texts, Unbroken s := by
  simp [Unbroken, String.toList_join]

/-- Filling up a text does not break it. -/
lemma unbroken_padEnd {s : String} (hs : Unbroken s) (n : Nat) : Unbroken (Text.padEnd n s) := by
  simpa [Unbroken] using hs

/-- Digits are no line breaks. -/
lemma Numeral.newline_notMem_digits {radix : Nat} (h1 : 1 < radix) (hr : radix ≤ 16) (n : Nat) :
    '\n' ∉ digits radix n ∧ '\n' ∉ upperDigits radix n := by
  have hall : ∀ d < 16, '\n' ≠ Nat.digitChar d ∧ (Nat.digitChar d).toUpper ≠ '\n' := by decide
  refine ⟨fun h => ?_, fun h => ?_⟩
  · obtain ⟨d, hd, hc⟩ := exists_of_mem_digits h1 h
    exact (hall d (hd.trans_le hr)).1 hc
  · obtain ⟨c, hc, heq⟩ := List.mem_map.mp h
    obtain ⟨d, hd, rfl⟩ := exists_of_mem_digits h1 hc
    exact (hall d (hd.trans_le hr)).2 heq

/-- A number is written without line breaks. -/
lemma unbroken_toString (n : Nat) : Unbroken (toString n) := by
  have h : (toString n).toList = Numeral.digits 10 n := String.toList_ofList
  rw [Unbroken, h]
  exact (Numeral.newline_notMem_digits (by decide) (by decide) n).1

/-- A number is written in hexadecimal without line breaks. -/
lemma unbroken_hex (n : Nat) : Unbroken (Numeral.hex n) := by
  simpa [Unbroken, Numeral.hex] using
    (Numeral.newline_notMem_digits (by decide : 1 < 16) (by decide) n).1

namespace Plan

open Vhdl

variable (p : Plan)

/-- A reset literal has no line breaks. -/
lemma unbroken_resetLiteral (r : Register) : Unbroken (p.resetLiteral r) := by
  simpa [Unbroken, resetLiteral, Numeral.zeroPadded] using
    (Numeral.newline_notMem_digits (by decide : 1 < 16) (by decide) r.initval.toNat).2

/-- The frame shows values without line breaks if the module name is one. -/
lemma unbroken_frameValue (hname : Unbroken p.moduleName) (v : FrameValue) :
    Unbroken (p.frameValue v) := by
  cases v with
  | moduleName => exact hname
  | slots | width | busAddressBits | log2Bytes => exact unbroken_toString _
  | labelHeading => exact unbroken_padEnd (notMem_toList rfl (by decide)) _

/-- The lines of a register have no line breaks if its label and its mode have none. -/
lemma unbroken_line {r : Register} (hlabel : Unbroken r.label)
    (hupper : Unbroken (Text.uppercase r.label)) (htag : Unbroken r.mode.tag) (s : Section) :
    Unbroken (p.line r s) := by
  have hcolumn : Unbroken (p.column r.label) := unbroken_padEnd hlabel _
  have hconstant : Unbroken (p.column (Text.uppercase r.label)) := unbroken_padEnd hupper _
  have hmode : Unbroken (Text.padEnd 4 r.mode.tag) := unbroken_padEnd htag _
  cases s
  case ports | overrides =>
    rw [line]
    split
    all_goals
      simp only [unbroken_join_iff, List.forall_mem_cons, List.not_mem_nil, IsEmpty.forall_iff,
        implies_true, and_true, true_and, hlabel, hupper, hcolumn]
      repeat' apply And.intro
    all_goals exact notMem_toList rfl (by decide)
  all_goals
    simp only [line, unbroken_join_iff, List.forall_mem_cons, List.not_mem_nil, IsEmpty.forall_iff,
      implies_true, and_true, true_and, hupper, hcolumn, hconstant, hmode, unbroken_hex,
      unbroken_toString, unbroken_resetLiteral]
    repeat' apply And.intro
  all_goals exact notMem_toList rfl (by decide)

/-- A line of the frame stands for a line without breaks. -/
lemma notMem_marksText (hname : Unbroken p.moduleName) {line : List Mark}
    (hline : ∀ m ∈ line, m.IsInline) : '\n' ∉ p.marksText line := by
  intro hmem
  obtain ⟨m, hm, hbreak⟩ := List.mem_flatMap.mp hmem
  have hinline := hline m hm
  cases m with
  | char c => exact hinline (List.mem_singleton.mp hbreak).symm
  | value v => exact p.unbroken_frameValue hname v hbreak
  | lines s => exact hinline

/-- **The lines of a register file are those of its text**, if the module name, the labels and the
modes have no line breaks. -/
theorem splitOn_registerFileText (hname : Unbroken p.moduleName)
    (hregisters : ∀ r ∈ p.registers,
      Unbroken r.label ∧ Unbroken (Text.uppercase r.label) ∧ Unbroken r.mode.tag) :
    p.registerFileText.toList.splitOn '\n' = p.lines := by
  rw [← p.intercalate_lines]
  refine List.splitOn_intercalate '\n' (fun text htext => ?_)
    (p.lineTexts_linesFrom_ne_nil [] (marks template))
  obtain ⟨t, ht, hline⟩ := List.mem_flatMap.mp htext
  cases t with
  | frame line =>
    rw [List.mem_singleton.mp hline]
    exact p.notMem_marksText hname
      (isInline_of_mem_linesFrom (marks template) (by simp) ht)
  | registers s =>
    obtain ⟨_, hmem, rfl⟩ := List.mem_map.mp hline
    obtain ⟨r, hr, rfl⟩ := List.mem_map.mp hmem
    obtain ⟨hlabel, hupper, htag⟩ := hregisters r (List.mem_of_mem_filter hr)
    exact p.unbroken_line hlabel hupper htag s

end Plan

/-! ## Sections in the text -/

namespace Vhdl

/-- The lines of a section stand behind its heading. The header is left out: its heading stands
behind a value on the same line. -/
lemma heading_registers_infix {s : Section} (hs : s ≠ .header) :
    [.frame (textMarks s.heading), .registers s] <:+: templateLines := by
  have hall : ∀ s ∈ [Section.ports, .indices, .resetValues, .writable, .clears, .overrides,
      .outputs], [.frame (textMarks s.heading), .registers s] <:+: templateLines := by
    apply of_spelled (P := fun ms =>
      ∀ s ∈ [Section.ports, .indices, .resetValues, .writable, .clears, .overrides, .outputs],
        [.frame (textMarks s.heading), .registers s] <:+: linesFrom [] ms)
    · repeat constructor
    · decide +kernel
  cases s with
  | header => exact absurd rfl hs
  | _ => exact hall _ (by simp)

end Vhdl

/-- Splitting what lines make up splits each of them. -/
lemma splitOn_intercalate_eq_flatMap {α : Type} [BEq α] [LawfulBEq α] (separator : α)
    {lines : List (List α)} (hne : lines ≠ []) :
    ([separator].intercalate lines).splitOn separator = lines.flatMap (·.splitOn separator) := by
  induction lines with
  | nil => exact absurd rfl hne
  | cons line lines ih =>
    by_cases hlines : lines = []
    · simp [hlines, List.intercalate]
    · rw [List.intercalate_cons_of_ne_nil hlines, List.append_assoc, List.singleton_append,
        List.flatMap_cons, ← ih hlines]
      exact List.splitOnP_append_cons _ _ (beq_self_eq_true separator)

/-- A text without line breaks is one line. -/
lemma splitOn_eq_singleton {s : String} (hs : Unbroken s) :
    s.toList.splitOn '\n' = [s.toList] := by
  refine List.splitOnP_eq_singleton fun c hc => ?_
  rw [beq_eq_false_iff_ne]
  rintro rfl
  exact hs hc

namespace Plan

open Vhdl

variable (p : Plan)

/-- **The lines of a section are lines of the text behind the heading of the section**, if the
labels and the modes of their registers have no line breaks. Whether other lines are broken does not
matter. -/
theorem sectionLines_infix {s : Section} (hs : s ≠ .header)
    (hregisters : ∀ r ∈ p.registers,
      Unbroken r.label ∧ Unbroken (Text.uppercase r.label) ∧ Unbroken r.mode.tag) :
    s.heading.toList :: (p.sectionLines s).map String.toList <:+:
      p.registerFileText.toList.splitOn '\n' := by
  obtain ⟨before, back, htemplate⟩ := heading_registers_infix hs
  have hlines : p.lines = before.flatMap p.lineTexts ++
      (s.heading.toList :: (p.sectionLines s).map String.toList) ++
        back.flatMap p.lineTexts := by
    rw [lines, ← htemplate, List.flatMap_append, List.flatMap_append]
    simp [lineTexts, marksText_textMarks]
  have hheading : Unbroken s.heading := by
    cases s <;> exact notMem_toList rfl (by decide)
  have hunbroken : ∀ line ∈ s.heading.toList :: (p.sectionLines s).map String.toList,
      line.splitOn '\n' = [line] := by
    simp only [sectionLines, List.map_map, List.forall_mem_cons, List.forall_mem_map]
    refine ⟨splitOn_eq_singleton hheading, fun r hr => ?_⟩
    obtain ⟨hlabel, hupper, htag⟩ := hregisters r (List.mem_of_mem_filter hr)
    exact splitOn_eq_singleton (p.unbroken_line hlabel hupper htag s)
  have hsection : (s.heading.toList :: (p.sectionLines s).map String.toList).flatMap
      (·.splitOn '\n') = s.heading.toList :: (p.sectionLines s).map String.toList := by
    rw [List.flatMap_congr hunbroken, List.flatMap_singleton']
  have hne : p.lines ≠ [] := p.lineTexts_linesFrom_ne_nil [] (marks template)
  rw [← p.intercalate_lines, splitOn_intercalate_eq_flatMap '\n' hne, hlines,
    List.flatMap_append, List.flatMap_append, hsection]
  exact ⟨_, _, rfl⟩

end Plan

end RegisterFile

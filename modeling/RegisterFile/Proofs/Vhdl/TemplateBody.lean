import Mathlib
import RegisterFile.Proofs.Template.Assembly
import RegisterFile.Vhdl.StandardTemplate

set_option autoImplicit false

/-!
# The body of the standard template

The standard template is a template: its source is assembled to a body, part by part. Frames become
text and values, a section becomes a loop over the registers, and a choice between lines becomes
nested choices.

## Main definitions

* `Vhdl.FrameValue.compiled`, `Vhdl.LineValue.compiled`, `Vhdl.Guard.compiled` - what is in tags.
* `Vhdl.piecesBody` - some pieces in front of a body.
* `Vhdl.Lines.body`, `Vhdl.partsBody` - the bodies of lines and parts.

## Main results

* `Vhdl.parse_templateSource` - the body of the standard template.
-/

namespace RegisterFile.Vhdl

open Template

/-! ## Tags -/

/-- Padding to the width of the column of labels. -/
def justified : FilterCall := ⟨"ljust", [("width", .reference "JUST_WIDTH")]⟩

/-- The expression for a value of the frame. -/
def FrameValue.compiled : FrameValue → Expression
  | .moduleName => ⟨.reference "MODULE_NAME", []⟩
  | .slots => ⟨.reference "NUM_REGISTERS", []⟩
  | .width => ⟨.reference "REGISTER_WIDTH", []⟩
  | .busAddressBits => ⟨.reference "AXI_ADDR_WIDTH", []⟩
  | .log2Bytes => ⟨.reference "LOG2_REGISTER_BYTE_WIDTH", []⟩
  | .labelHeading => ⟨.literal (.text "label"), [justified]⟩

/-- The expression for a value of the register `reg`. -/
def LineValue.compiled : LineValue → Expression
  | .label => ⟨.reference "reg.label", []⟩
  | .paddedLabel => ⟨.reference "reg.label", [justified]⟩
  | .constant => ⟨.reference "reg.label", [⟨"upper", []⟩]⟩
  | .paddedConstant => ⟨.reference "reg.label", [⟨"upper", []⟩, justified]⟩
  | .mode => ⟨.reference "reg.mode", [⟨"ljust", [("width", .literal (.integer 4))]⟩]⟩
  | .byteOffset => ⟨.reference "reg.byte_offset", []⟩
  | .address => ⟨.reference "reg.addr", []⟩
  | .resetValue =>
    ⟨.reference "reg.initval", [⟨"vhdl_hex", [("bits", .reference "REGISTER_WIDTH")]⟩]⟩

/-- The comparison of the mode of the register `reg` with a text. -/
def modeIs (tag : String) : Comparison :=
  ⟨⟨.reference "reg.mode", []⟩, ⟨.literal (.text tag), []⟩⟩

/-- The modes that a guard names. -/
def Guard.tags : Guard → List String
  | .status => ["stat"]
  | .trigger => ["trig"]
  | .writable => ["trig", "ctrl"]

/-- The condition on the mode of the register `reg`. -/
def Guard.compiled (g : Guard) : Condition := g.tags.map modeIs

/-- The loop over the registers. -/
def registersLoop : LoopHeader := ⟨none, "reg", ⟨.reference "registers", []⟩⟩

/-- The output tags of the frame are read. -/
lemma FrameValue.readsTag (v : FrameValue) :
    ReadsTag '}' (expressionWith? negatableOperand?) v.expression.toList v.compiled := by
  intro rest
  cases v <;> cbv

/-- The output tags of lines are read. -/
lemma LineValue.readsTag (v : LineValue) :
    ReadsTag '}' (expressionWith? negatableOperand?) v.expression.toList v.compiled := by
  intro rest
  cases v <;> cbv

/-- The tags that start a choice are read. -/
lemma Guard.readsTag_if (g : Guard) :
    ReadsTag '%' statement? ("if" ++ " " ++ g.condition).toList (.choose g.compiled) := by
  intro rest
  cases g <;> cbv

/-- The tags that divide a choice are read. -/
lemma Guard.readsTag_elif (g : Guard) :
    ReadsTag '%' statement? ("elif" ++ " " ++ g.condition).toList (.otherwiseIf g.compiled) := by
  intro rest
  cases g <;> cbv

/-- The tag that ends a choice is read. -/
lemma readsTag_endif : ReadsTag '%' statement? "endif".toList .endChoose := by
  intro rest
  cbv

/-- The tag that starts a section is read. -/
lemma readsTag_for :
    ReadsTag '%' statement? "for reg in registers".toList (.forEach registersLoop) := by
  intro rest
  cbv

/-- The tag that ends a section is read. -/
lemma readsTag_endfor : ReadsTag '%' statement? "endfor".toList .endForEach := by
  intro rest
  cbv

/-! ## Bodies -/

/-- Some pieces in front of a body that depends on the text that is pending before it. -/
def piecesBody {α : Type} (compiled : α → Expression) :
    List (Piece α) → (List Char → Body) → List Char → Body
  | [], k, reversed => k reversed
  | .text s :: ps, k, reversed => piecesBody compiled ps k (s.toList.reverse ++ reversed)
  | .value v :: ps, k, reversed =>
    withText reversed (.output (compiled v) (piecesBody compiled ps k []))

/-- The end of a part, in front of a statement tag. -/
def partEnd (reversed : List Char) : Body := withText (dropBlanks reversed) .done

/-- The body of a line. -/
def Line.body (line : Line) (reversed : List Char) : Body :=
  piecesBody LineValue.compiled line partEnd ('\n' :: reversed)

/-- The body of a choice between some branches. -/
def choiceBody : List Branch → Body
  | [] => .done
  | b :: bs => .choose b.guard.compiled (b.line.body []) (choiceBody bs) .done

/-- The body of the lines of a section. -/
def Lines.body : Lines → List Char → Body
  | .always line, reversed => line.body reversed
  | .choice first others, reversed =>
    withText (dropBlanks reversed) (choiceBody (first :: others))

/-- A section in front of a body. -/
def Section.body (s : Section) (k : List Char → Body) (reversed : List Char) : Body :=
  withText (s.heading.toList.reverse ++ reversed)
    (.forEach registersLoop (s.lines.body []) (k ['\n']))

/-- The body of some parts. -/
def partsBody : List Part → List Char → Body
  | [], reversed => withText reversed .done
  | .frame pieces :: parts, reversed =>
    piecesBody FrameValue.compiled pieces (partsBody parts) reversed
  | .lines s :: parts, reversed => s.body (partsBody parts) reversed

/-! ## Literal text -/

/-- A text lacks a character that its characters lack. -/
lemma notMem_toList {s : String} {cs : List Char} {c : Char} (hs : s = String.ofList cs)
    (hc : c ∉ cs) : c ∉ s.toList := by
  rwa [hs, String.toList_ofList]

/-- Whether literal text opens no tag. -/
def Piece.IsPlain {α : Type} : Piece α → Prop
  | .text s => '{' ∉ s.toList
  | .value _ => True

/-- Whether no literal text of some lines opens a tag. -/
def Lines.IsPlain : Lines → Prop
  | .always line => ∀ piece ∈ line, piece.IsPlain
  | .choice first others => ∀ b ∈ first :: others, ∀ piece ∈ b.line, piece.IsPlain

/-- No line of a section opens a tag that is none. -/
lemma Section.isPlain_lines (s : Section) : s.lines.IsPlain := by
  cases s <;>
    simp only [Section.lines, Lines.IsPlain, List.forall_mem_cons, List.not_mem_nil,
      IsEmpty.forall_iff, implies_true, and_true, Piece.IsPlain, true_and]
  -- the characters are found by unification: reading them off a long text is slow
  all_goals
    repeat' apply And.intro
  all_goals
    exact notMem_toList rfl (by decide)

/-- Whether a text ends with a character that is no blank. -/
def EndsVisibly (s : String) : Prop := s.toList.getLast?.any (fun c => !Text.isBlank c) = true

/-- The characters of a text tell how it ends. -/
lemma endsVisibly_of_eq {s : String} {cs : List Char} (hs : s = String.ofList cs)
    (hcs : cs.getLast?.any (fun c => !Text.isBlank c) = true) : EndsVisibly s := by
  rwa [EndsVisibly, hs, String.toList_ofList]

/-- Nothing is dropped behind a text that ends visibly. -/
lemma dropBlanks_append {s : String} (h : EndsVisibly s) (reversed : List Char) :
    dropBlanks (s.toList.reverse ++ reversed) = s.toList.reverse ++ reversed := by
  rw [EndsVisibly, ← List.head?_reverse] at h
  cases hcs : s.toList.reverse with
  | nil => simp [hcs] at h
  | cons c cs =>
    have hc : Text.isBlank c = false := by simpa [hcs] using h
    simp [dropBlanks, hc]

/-- The line in front of a section opens no tag and ends visibly. -/
lemma Section.heading_isPlain (s : Section) :
    '{' ∉ s.heading.toList ∧ EndsVisibly s.heading := by
  cases s <;> exact ⟨notMem_toList rfl (by decide), endsVisibly_of_eq rfl (by decide)⟩

/-- Whether no literal text of a part opens a tag. -/
def Part.IsPlain : Part → Prop
  | .frame pieces => ∀ piece ∈ pieces, piece.IsPlain
  | .lines _ => True

/-- No literal text of the frame opens a tag. -/
lemma isPlain_template : ∀ part ∈ template, part.IsPlain := by
  simp only [template, List.forall_mem_cons, List.not_mem_nil, IsEmpty.forall_iff, implies_true,
    and_true, Part.IsPlain, Piece.IsPlain, true_and]
  repeat' apply And.intro
  all_goals
    exact notMem_toList rfl (by decide)

/-! ## Assembling lines -/

section Assembling

variable {cs : List Char} {c : Closing} {fs : List Frame}

/-- A statement on a line of its own takes the line break before it along. -/
lemma assembles_statementTag {frames : List Char → List Frame} (h : Assembles cs frames)
    {s : String} {t : Tag} (hread : ReadsTag '%' statement? s.toList t) {b : Body}
    (hprepend : prepend (.tag t) (frames []) = some (⟨c, b⟩ :: fs)) :
    Assembles ((statementTag s).toList ++ cs) fun reversed =>
      ⟨c, withText (dropBlanks reversed) b⟩ :: fs := by
  have hsource : (statementTag s).toList ++ cs =
      ['\n'] ++ '{' :: '%' :: '-' :: ' ' :: (s.toList ++ ' ' :: '%' :: '}' :: cs) := by
    simp [statementTag]
  rw [hsource]
  exact (h.statement hread hprepend).text (by decide)

/-- Text and values are put in front of a body. -/
lemma assembles_pieces {α : Type} {expression : α → String} {compiled : α → Expression}
    (hread : ∀ v, ReadsTag '}' (expressionWith? negatableOperand?) (expression v).toList
      (compiled v))
    {pieces : List (Piece α)} (hplain : ∀ piece ∈ pieces, piece.IsPlain) {k : List Char → Body}
    (h : Assembles cs fun reversed => ⟨c, k reversed⟩ :: fs) :
    Assembles ((piecesSource expression pieces).toList ++ cs) fun reversed =>
      ⟨c, piecesBody compiled pieces k reversed⟩ :: fs := by
  induction pieces with
  | nil => exact h
  | cons piece ps ih =>
    have ih := ih fun x hx => hplain x (List.mem_cons_of_mem piece hx)
    cases piece with
    | text s =>
      rw [piecesSource, String.toList_append, List.append_assoc]
      exact ih.text (hplain _ List.mem_cons_self)
    | value v =>
      have hsource : (piecesSource expression (.value v :: ps)).toList ++ cs =
          '{' :: '{' :: ' ' :: ((expression v).toList ++ ' ' :: '}' :: '}' ::
            ((piecesSource expression ps).toList ++ cs)) := by
        simp [piecesSource, outputTag]
      rw [hsource]
      exact ih.output (hread v)

/-- A line in front of a statement tag. -/
lemma assembles_line {line : Line} (hplain : ∀ piece ∈ line, piece.IsPlain)
    (h : Assembles cs fun reversed => ⟨c, partEnd reversed⟩ :: fs) :
    Assembles (line.source.toList ++ cs) fun reversed => ⟨c, line.body reversed⟩ :: fs := by
  rw [Line.source, String.toList_append, List.append_assoc]
  exact (assembles_pieces LineValue.readsTag hplain h).text (by decide)

/-- The branches behind the first one, with the end of their choice.

**Proof sketch.** Induction on the branches: each tag that divides the choice turns what stands
behind it into the part that is taken otherwise. -/
lemma assembles_others {branches : List Branch}
    (hplain : ∀ b ∈ branches, ∀ piece ∈ b.line, piece.IsPlain) {frames : List Char → List Frame}
    (h : Assembles cs frames) :
    ∃ last, Assembles ((othersSource branches ++ statementTag "endif").toList ++ cs) fun reversed =>
      ⟨.choice (choiceBody branches) last, partEnd reversed⟩ :: frames [] := by
  induction branches with
  | nil => exact ⟨true, assembles_statementTag h readsTag_endif rfl⟩
  | cons b bs ih =>
    obtain ⟨last, ih⟩ := ih fun x hx => hplain x (List.mem_cons_of_mem b hx)
    have hline := assembles_line (hplain b List.mem_cons_self) ih
    have htag := assembles_statementTag hline b.guard.readsTag_elif rfl
    refine ⟨false, ?_⟩
    simp only [othersSource, Branch.source, String.toList_append, List.append_assoc] at htag ⊢
    exact htag

/-- The lines of a section. -/
lemma assembles_lines {lines : Lines} (hplain : lines.IsPlain)
    (h : Assembles cs fun reversed => ⟨c, partEnd reversed⟩ :: fs) :
    Assembles (lines.source.toList ++ cs) fun reversed => ⟨c, lines.body reversed⟩ :: fs := by
  cases lines with
  | always line => exact assembles_line hplain h
  | choice first others =>
    obtain ⟨last, hothers⟩ :=
      assembles_others (fun b hb => hplain b (List.mem_cons_of_mem first hb)) h
    have hline := assembles_line (hplain first List.mem_cons_self) hothers
    have htag := assembles_statementTag hline first.guard.readsTag_if rfl
    simp only [Lines.source, Branch.source, String.toList_append, List.append_assoc] at htag ⊢
    exact htag

/-! ## Assembling parts -/

/-- A section in front of a body. -/
lemma assembles_section (s : Section) {k : List Char → Body}
    (h : Assembles cs fun reversed => ⟨c, k reversed⟩ :: fs) :
    Assembles (s.source.toList ++ cs) fun reversed => ⟨c, s.body k reversed⟩ :: fs := by
  obtain ⟨hplain, hvisible⟩ := s.heading_isPlain
  have hend : Assembles ((statementTag "endfor").toList ++ ("\n".toList ++ cs)) fun reversed =>
      ⟨.loop, partEnd reversed⟩ :: ⟨c, k ['\n']⟩ :: fs :=
    assembles_statementTag (h.text (by decide)) readsTag_endfor rfl
  have hfor := assembles_statementTag (assembles_lines s.isPlain_lines hend) readsTag_for rfl
  have hheading := hfor.text hplain
  simp only [dropBlanks_append hvisible] at hheading
  simp only [Section.source, String.toList_append, List.append_assoc]
  exact hheading

end Assembling

/-- **The parts of a template are assembled to their bodies.**

**Proof sketch.** Induction on the parts, from the last one to the first. -/
lemma assembles_parts {parts : List Part} (hplain : ∀ part ∈ parts, part.IsPlain) :
    Assembles (parts.flatMap fun part => part.source.toList) fun reversed =>
      [⟨.whole, partsBody parts reversed⟩] := by
  induction parts with
  | nil => exact assembles_nil
  | cons part parts ih =>
    have ih := ih fun x hx => hplain x (List.mem_cons_of_mem part hx)
    rw [List.flatMap_cons]
    cases part with
    | frame pieces =>
      exact assembles_pieces FrameValue.readsTag (hplain _ List.mem_cons_self) ih
    | lines s => exact assembles_section s ih

/-- **The standard template is a template**, with the body of its parts. -/
theorem parse_templateSource : parse templateSource = some (partsBody template []) := by
  obtain ⟨pieces, parts, htemplate⟩ :
      ∃ pieces parts, template = .frame (.text "-- " :: pieces) :: parts := ⟨_, _, rfl⟩
  obtain ⟨cs, hcs⟩ : ∃ cs, template.flatMap (fun part => part.source.toList) = '-' :: cs := by
    simp [htemplate, Part.source, piecesSource]
  have hsource : templateSource = String.ofList ('-' :: cs) := by
    rw [← hcs, templateSource, ← String.toList_inj, String.toList_join, String.toList_ofList,
      List.flatMap_map]
  have hassembles := assembles_parts isPlain_template
  rw [hcs] at hassembles
  rw [hsource]
  exact parse_eq_some (by decide) hassembles rfl

end RegisterFile.Vhdl

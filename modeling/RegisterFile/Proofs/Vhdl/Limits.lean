import RegisterFile.Proofs.Template.Limits
import RegisterFile.Proofs.Vhdl.StandardRendering

set_option autoImplicit false

/-!
# Where the standard template breaks off

The standard template has a text for a plan exactly if the column of labels and the reset values are
not wider than fields may be. Otherwise it breaks off at such a field, and there is no other way for
it to fail.

The condition is gathered along the parts of the template: a value of the frame counts once, a value
of a line for every register that the line is for.

## Main definitions

* `Vhdl.Line.Fits`, `Vhdl.Lines.Fits`, `Vhdl.Part.Fits` - no value of a part is too wide.

## Main results

* `Vhdl.endsWithin_partsBody` - when the parts of a template have a text.
* `Vhdl.forall_template_fits_iff` - the condition for the standard template.
* `Renderer.standard_endsWithin` - when the standard renderer has a result.
* `Renderer.eq_registerFileText` - what its result is.
-/

namespace RegisterFile

open Template

namespace Vhdl

variable {p : Plan} {template : String}

/-! ## Values -/

/-- A value of the frame is shown exactly if it is not too wide. -/
lemma FrameValue.endsWithin (v : FrameValue) :
    EndsWithin tooWide (v.Fits p) (v.compiled.evaluate template p.scope) := by
  by_cases hv : v.Fits p
  · have hshown : ∃ w, v.compiled.evaluate template p.scope = .ok w ∧ w.print = p.frameValue v :=
      FrameValue.evaluate hv
    obtain ⟨w, hw, -⟩ := hshown
    exact .inl ⟨hv, w, hw⟩
  · cases v with
    | labelHeading =>
      have hcolumn : p.scope.find? "JUST_WIDTH" = .ok (some (.integer p.labelColumn)) := by cbv
      exact .inr ⟨hv, _, Nat.lt_of_not_le hv, evaluate_filter_stop rfl
        (apply_ljust_tooWide (evaluate_reference hcolumn) hv "label") []⟩
    | _ => exact absurd trivial hv

/-- A value of a register is shown exactly if it is not too wide. -/
lemma LineValue.endsWithin (r : Register) (index : Nat) (isLast : Bool) (v : LineValue) :
    EndsWithin tooWide (v.Fits p)
      (v.compiled.evaluate template (registerScope p r index isLast)) := by
  have hlabel := find?_label (p := p) r index isLast
  have hcolumn := find?_labelColumn (p := p) r index isLast
  by_cases hv : v.Fits p
  · have hshown : ∃ w, v.compiled.evaluate template (registerScope p r index isLast) = .ok w ∧
        w.print = lineValue p r v :=
      LineValue.evaluate r index isLast hv
    obtain ⟨w, hw, -⟩ := hshown
    exact .inl ⟨hv, w, hw⟩
  · cases v with
    | paddedLabel =>
      exact .inr ⟨hv, _, Nat.lt_of_not_le hv, evaluate_filter_stop (evaluate_reference hlabel)
        (apply_ljust_tooWide (evaluate_reference hcolumn) hv r.label) []⟩
    | paddedConstant =>
      refine .inr ⟨hv, ⟨p.labelColumn⟩, Nat.lt_of_not_le hv,
        (evaluate_filter (evaluate_reference hlabel) (apply_upper r.label) _).trans ?_⟩
      simp only [List.foldlM_cons, justified,
        apply_ljust_tooWide (evaluate_reference hcolumn) hv]
      rfl
    | resetValue =>
      have hliteral : bitString p.width.bits r.initval.toNat = .error ⟨p.width.bits / 4⟩ := by
        have hdigits : bitStringDigits p.width.bits = p.width.bits / 4 :=
          if_pos p.width.bits_mod_four
        have hwidth := Text.fieldWidth_eq_error hv
        rw [bitString, hdigits, hwidth]
        rfl
      exact .inr ⟨hv, _, Nat.lt_of_not_le hv, evaluate_filter_stop
        (evaluate_reference (find?_initval r index isLast))
        (apply_vhdlHex_tooWide (evaluate_reference (find?_bits r index isLast)) hliteral) []⟩
    | _ => exact absurd trivial hv

/-! ## Lines -/

/-- Whether no value among some pieces is too wide. -/
def Piece.Fits {α : Type} (fits : α → Prop) : Piece α → Prop
  | .text _ => True
  | .value v => fits v

/-- Some pieces in front of a body that has a text whatever is pending before it.

**Proof sketch.** Induction on the pieces. Literal text is pending until a value or the end. -/
lemma endsWithin_piecesBody {scope : Scope} {α : Type} {compiled : α → Expression}
    {fits : α → Prop}
    (hvalue : ∀ v, EndsWithin tooWide (fits v) ((compiled v).evaluate template scope))
    {k : List Char → Body} {Q : Prop}
    (hk : ∀ reversed, EndsWithin tooWide Q ((k reversed).render template scope))
    (pieces : List (Piece α)) (reversed : List Char) :
    EndsWithin tooWide ((∀ piece ∈ pieces, piece.Fits fits) ∧ Q)
      ((piecesBody compiled pieces k reversed).render template scope) := by
  induction pieces generalizing reversed with
  | nil => exact (hk reversed).congr (by simp)
  | cons piece ps ih =>
    cases piece with
    | text s =>
      rw [piecesBody]
      exact (ih _).congr (by simp [Piece.Fits])
    | value v =>
      rw [piecesBody]
      have hnext := endsWithin_output (hvalue v) (ih [])
      exact (endsWithin_withText hnext reversed).congr (by simp [Piece.Fits, and_assoc])

/-- Whether no value of a line is too wide. -/
def Line.Fits (p : Plan) (line : Line) : Prop := ∀ piece ∈ line, piece.Fits (LineValue.Fits p)

/-- The line of a register. -/
lemma Line.endsWithin (r : Register) (index : Nat) (isLast : Bool) (line : Line) :
    EndsWithin tooWide (line.Fits p)
      ((line.body []).render template (registerScope p r index isLast)) := by
  have hend : ∀ reversed, EndsWithin tooWide True
      ((partEnd reversed).render template (registerScope p r index isLast)) := fun reversed =>
    endsWithin_withText (.ok "") _
  exact (endsWithin_piecesBody (LineValue.endsWithin r index isLast) hend line ['\n']).congr
    (and_iff_left trivial)

/-- Whether the lines of a section are not too wide for a register of an access. -/
def Lines.Fits (p : Plan) (access : Option Access) : Lines → Prop
  | .always line => line.Fits p
  | .choice first others =>
    ∀ b ∈ (first :: others).find? fun b => b.guard.admits access, b.line.Fits p

/-- A choice between lines. -/
lemma endsWithin_choiceBody (r : Register) (index : Nat) (isLast : Bool)
    (branches : List Branch) :
    EndsWithin tooWide
      (∀ b ∈ branches.find? fun b => b.guard.admits r.mode.access?, b.line.Fits p)
      ((choiceBody branches).render template (registerScope p r index isLast)) := by
  induction branches with
  | nil => exact (EndsWithin.ok "").congr (by simp)
  | cons b bs ih =>
    have hdone : EndsWithin tooWide True
        (Body.done.render template (registerScope p r index isLast)) := .ok ""
    have hcondition : Condition.holds template (registerScope p r index isLast) b.guard.compiled =
        .ok (b.guard.admits r.mode.access?) :=
      b.guard.holds r index isLast
    rw [choiceBody, List.find?_cons]
    cases hadmits : b.guard.admits r.mode.access? with
    | true =>
      rw [hadmits] at hcondition
      exact (endsWithin_choose hcondition (b.line.endsWithin r index isLast) hdone).congr (by simp)
    | false =>
      rw [hadmits] at hcondition
      exact (endsWithin_choose hcondition ih hdone).congr (and_iff_left trivial)

/-- The lines of a section for a register. -/
lemma Lines.endsWithin (r : Register) (index : Nat) (isLast : Bool) (lines : Lines) :
    EndsWithin tooWide (lines.Fits p r.mode.access?)
      ((lines.body []).render template (registerScope p r index isLast)) := by
  cases lines with
  | always line => exact line.endsWithin r index isLast
  | choice first others => exact endsWithin_choiceBody r index isLast (first :: others)

/-! ## Parts -/

/-- Whether no value of a part is too wide. -/
def Part.Fits (p : Plan) : Part → Prop
  | .frame pieces => ∀ piece ∈ pieces, piece.Fits (FrameValue.Fits p)
  | .lines s => ∀ r ∈ p.registers, s.lines.Fits p r.mode.access?

/-- **The parts of a template have a text exactly if none is too wide.**

**Proof sketch.** Induction on the parts. -/
theorem endsWithin_partsBody (parts : List Part) (reversed : List Char) :
    EndsWithin tooWide (∀ part ∈ parts, part.Fits p)
      ((partsBody parts reversed).render template p.scope) := by
  induction parts generalizing reversed with
  | nil => exact (endsWithin_withText (.ok "") reversed).congr (by simp)
  | cons part parts ih =>
    cases part with
    | frame pieces =>
      exact (endsWithin_piecesBody FrameValue.endsWithin ih pieces reversed).congr
        (by simp [Part.Fits])
    | lines s =>
      have hregisters : p.scope.find? "registers" =
          .ok (some (.list (p.registers.map p.registerValue))) := by
        cbv
      have hloop := endsWithin_forEach (evaluate_reference hregisters)
        (fun r _ index isLast => s.lines.endsWithin r index isLast) (ih ['\n'])
      exact (endsWithin_withText hloop _).congr (by simp [Part.Fits])

/-- The standard template shows a heading in the column of labels, and a reset value for every
register. -/
theorem forall_template_fits_iff : (∀ part ∈ Vhdl.template, part.Fits p) ↔ Fits p := by
  constructor
  · intro h
    obtain ⟨pieces, hframe, hheading⟩ : ∃ pieces, .frame pieces ∈ Vhdl.template ∧
        .value .labelHeading ∈ pieces := ⟨_, List.mem_cons_self, by simp⟩
    have hreset : .lines .resetValues ∈ Vhdl.template := by simp [Vhdl.template]
    obtain ⟨r, hr⟩ := List.exists_mem_of_ne_nil _ p.admissible.nonempty
    have hvalue : Piece.value LineValue.resetValue ∈ [
        .text "    C_", .value .paddedConstant, .text " => ", .value .resetValue, .text ","] := by
      simp
    exact ⟨h _ hframe _ hheading, h _ hreset r hr _ hvalue⟩
  · intro hp part _
    have hline : ∀ line : Line, line.Fits p := by
      intro line piece _
      cases piece with
      | text s => trivial
      | value v => exact hp.lineValue v
    cases part with
    | frame pieces =>
      intro piece _
      cases piece with
      | text s => trivial
      | value v => exact hp.frameValue v
    | lines s =>
      intro r _
      cases s.lines with
      | always line => exact hline line
      | choice first others => exact fun b _ => hline b.line

end Vhdl

/-! ## The standard renderer -/

/-- A run that breaks off at a field that is too wide. -/
def Failure.tooWide (field : Text.FieldTooWide) : Failure := .brokenOff (.fieldTooWide field)

/-- **The standard renderer has a result exactly if nothing is too wide**, and breaks off
otherwise. -/
theorem Renderer.standard_endsWithin {renderer : Renderer} (h : Renderer.standard = .ok renderer)
    (p : Plan) : EndsWithin Failure.tooWide (Vhdl.Fits p) (renderer.render p).outcome := by
  obtain rfl : Renderer.ofTemplate _ _ _ = renderer := Except.ok.inj (standard_eq.symm.trans h)
  have hbody : EndsWithin Template.tooWide (Vhdl.Fits p)
      ((Vhdl.partsBody Vhdl.template []).render Vhdl.templateName p.scope) :=
    (Vhdl.endsWithin_partsBody Vhdl.template []).congr Vhdl.forall_template_fits_iff
  rw [outcome_ofTemplate]
  exact hbody.mapError (stopFailure Vhdl.templateName)

/-- What the standard renderer yields is the text of the register file. -/
theorem Renderer.eq_registerFileText {renderer : Renderer} (h : Renderer.standard = .ok renderer)
    {p : Plan} {text : String} (htext : (renderer.render p).outcome = .ok text) :
    text = p.registerFileText := by
  obtain ⟨renderer', h', hyields⟩ :=
    p.exists_standard_render ((standard_endsWithin h p).exists_ok_iff.mp ⟨text, htext⟩)
  obtain rfl := Except.ok.inj (h'.symm.trans h)
  exact Except.ok.inj (htext.symm.trans hyields)

end RegisterFile

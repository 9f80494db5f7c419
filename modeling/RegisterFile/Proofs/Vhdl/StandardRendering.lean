import RegisterFile.Proofs.BitString
import RegisterFile.Proofs.Logged
import RegisterFile.Proofs.PlanOutcome
import RegisterFile.Proofs.Template.Printing
import RegisterFile.Proofs.Vhdl.RegisterFileText
import RegisterFile.Proofs.Vhdl.TemplateBody
import RegisterFile.Proofs.Width

set_option autoImplicit false

/-!
# Rendering the standard template

The standard template yields the text of the register file for every plan whose columns and reset
values are not wider than fields may be.

A line is printed piece by piece in the scope of its register. Text in front of a value or of a
statement tag is pending until that is reached, so that the results on printing speak of the text
that is pending before and behind what is printed.

## Main definitions

* `Vhdl.Fits` - columns and reset values are not too wide.
* `Vhdl.registerScope` - the scope of a register in a section.
* `Vhdl.pendingAfter` - what is pending behind some pieces.

## Main results

* `Vhdl.LineValue.evaluate`, `Vhdl.Guard.holds` - values and conditions in the scope of a register.
* `Vhdl.render_lines`, `Vhdl.Section.text_lines` - what a section prints for a register.
* `Vhdl.render_partsBody` - what the body of some parts prints.
* `standard_render_of_plan` - what the standard renderer yields.
-/

namespace RegisterFile

open Template

/-- A mode stands for the access whose text it is. -/
lemma Mode.access?_eq_some_iff (m : Mode) (a : Access) : m.access? = some a ↔ m.tag = a.tag := by
  unfold Mode.access?
  split_ifs with hstatus htrigger hcontrol <;> cases a <;> simp_all [Access.tag]

namespace Vhdl

/-! ## Values -/

variable {p : Plan} {template : String}

/-- The widths of columns and reset values are not too wide. -/
structure Fits (p : Plan) : Prop where
  column : p.labelColumn ≤ Text.widestField
  digits : p.width.bits / 4 ≤ Text.widestField

/-- Whether a value of the frame is not too wide. -/
def FrameValue.Fits (p : Plan) : FrameValue → Prop
  | .labelHeading => p.labelColumn ≤ Text.widestField
  | _ => True

/-- Whether a value of a register is not too wide. -/
def LineValue.Fits (p : Plan) : LineValue → Prop
  | .paddedLabel => p.labelColumn ≤ Text.widestField
  | .paddedConstant => p.labelColumn ≤ Text.widestField
  | .resetValue => p.width.bits / 4 ≤ Text.widestField
  | _ => True

/-- No value of the frame is too wide if columns are not. -/
lemma Fits.frameValue (hp : Fits p) (v : FrameValue) : v.Fits p := by
  cases v with
  | labelHeading => exact hp.column
  | _ => trivial

/-- No value of a register is too wide if columns and reset values are not. -/
lemma Fits.lineValue (hp : Fits p) (v : LineValue) : v.Fits p := by
  cases v with
  | paddedLabel => exact hp.column
  | paddedConstant => exact hp.column
  | resetValue => exact hp.digits
  | _ => trivial

/-- The values of the frame that are not too wide are printed. -/
theorem FrameValue.evaluate {v : FrameValue} (hv : v.Fits p) :
    ∃ w, v.compiled.evaluate template p.scope = .ok w ∧ w.print = p.frameValue v := by
  cases v with
  | moduleName => exact ⟨_, evaluate_operand (evaluate_reference (by cbv)), print_text _⟩
  | slots => exact ⟨_, evaluate_operand (evaluate_reference (by cbv)), print_integer _⟩
  | width => exact ⟨_, evaluate_operand (evaluate_reference (by cbv)), print_integer _⟩
  | busAddressBits => exact ⟨_, evaluate_operand (evaluate_reference (by cbv)), print_integer _⟩
  | log2Bytes => exact ⟨_, evaluate_operand (evaluate_reference (by cbv)), print_integer _⟩
  | labelHeading =>
    have hcolumn : p.scope.find? "JUST_WIDTH" = .ok (some (.integer p.labelColumn)) := by cbv
    exact ⟨_, evaluate_filter rfl (apply_ljust (evaluate_reference hcolumn) hv "label") [],
      print_text _⟩

/-- The scope of a register in a section. -/
def registerScope (p : Plan) (r : Register) (index : Nat) (isLast : Bool) : Scope :=
  p.scope.enter ⟨none, "reg", some (p.registerValue r), index, isLast⟩

section RegisterScope

variable (r : Register) (index : Nat) (isLast : Bool)

/-- The mode of the register of a section. -/
lemma find?_mode :
    (registerScope p r index isLast).find? "reg.mode" = .ok (some (.text r.mode.tag)) := by
  cbv

/-- The label of the register of a section. -/
lemma find?_label :
    (registerScope p r index isLast).find? "reg.label" = .ok (some (.text r.label)) := by
  cbv

/-- The value on reset of the register of a section. -/
lemma find?_initval :
    (registerScope p r index isLast).find? "reg.initval" =
      .ok (some (.integer r.initval.toNat)) := by
  cbv

/-- The width of the column of labels in a section. -/
lemma find?_labelColumn :
    (registerScope p r index isLast).find? "JUST_WIDTH" = .ok (some (.integer p.labelColumn)) := by
  cbv

/-- The width of registers in a section. -/
lemma find?_bits :
    (registerScope p r index isLast).find? "REGISTER_WIDTH" =
      .ok (some (.integer p.width.bits)) := by
  cbv

end RegisterScope

/-- The texts of the values of a register. -/
def lineValue (p : Plan) (r : Register) : LineValue → String
  | .label => r.label
  | .paddedLabel => p.column r.label
  | .constant => Text.uppercase r.label
  | .paddedConstant => p.column (Text.uppercase r.label)
  | .mode => Text.padEnd 4 r.mode.tag
  | .byteOffset => Numeral.hex (p.byteOffset r)
  | .address => toString r.address.toNat
  | .resetValue => p.resetLiteral r

/-- The values of a register that are not too wide are printed. -/
theorem LineValue.evaluate (r : Register) (index : Nat) (isLast : Bool) {v : LineValue}
    (hv : v.Fits p) :
    ∃ w, v.compiled.evaluate template (registerScope p r index isLast) = .ok w ∧
      w.print = lineValue p r v := by
  have hlabel := find?_label (p := p) r index isLast
  have hcolumn := find?_labelColumn (p := p) r index isLast
  cases v with
  | label => exact ⟨_, evaluate_operand (evaluate_reference hlabel), print_text _⟩
  | paddedLabel =>
    exact ⟨_, evaluate_filter (evaluate_reference hlabel)
      (apply_ljust (evaluate_reference hcolumn) hv r.label) [], print_text _⟩
  | constant =>
    exact ⟨_, evaluate_filter (evaluate_reference hlabel) (apply_upper r.label) [], print_text _⟩
  | paddedConstant =>
    refine ⟨_, (evaluate_filter (evaluate_reference hlabel) (apply_upper r.label) _).trans ?_,
      print_text _⟩
    simp only [List.foldlM_cons, List.foldlM_nil, justified,
      apply_ljust (evaluate_reference hcolumn) hv]
    rfl
  | mode =>
    have hfour : (Operand.literal (.integer 4)).evaluate template (registerScope p r index isLast) =
        .ok (.integer (4 : Nat)) := rfl
    exact ⟨_, evaluate_filter (evaluate_reference (find?_mode r index isLast))
      (apply_ljust hfour (by decide) r.mode.tag) [], print_text _⟩
  | byteOffset => exact ⟨_, evaluate_operand (evaluate_reference (by cbv)), print_text _⟩
  | address => exact ⟨_, evaluate_operand (evaluate_reference (by cbv)), print_integer _⟩
  | resetValue =>
    have hliteral : bitString p.width.bits r.initval.toNat = .ok (p.resetLiteral r) :=
      bitString_eq_hex p.width.bits_mod_four hv r.initval.toNat
    exact ⟨_, evaluate_filter (evaluate_reference (find?_initval r index isLast))
      (apply_vhdlHex (evaluate_reference (find?_bits r index isLast)) hliteral) [], print_text _⟩

/-! ## Pieces -/

/-- The text that is pending behind some pieces. -/
def pendingAfter {α : Type} : List (Piece α) → List Char → List Char
  | [], reversed => reversed
  | .text s :: ps, reversed => pendingAfter ps (s.toList.reverse ++ reversed)
  | .value _ :: ps, _ => pendingAfter ps []

/-- Some pieces are printed behind what is pending and in front of what the body behind them prints.

**Proof sketch.** Induction on the pieces. Literal text is pending until a value or the end of the
pieces; that body prints it. -/
lemma render_piecesBody {scope : Scope} {α : Type} {compiled : α → Expression}
    {text : α → String}
    (hvalue : ∀ v, ∃ w, (compiled v).evaluate template scope = .ok w ∧ w.print = text v)
    {k : List Char → Body} {s : String} (pieces : List (Piece α)) (reversed : List Char)
    (hk : (k (pendingAfter pieces reversed)).render template scope =
      .ok (String.ofList (pendingAfter pieces reversed).reverse ++ s)) :
    (piecesBody compiled pieces k reversed).render template scope =
      .ok (String.ofList reversed.reverse ++ (piecesText text pieces ++ s)) := by
  induction pieces generalizing reversed with
  | nil =>
    rw [piecesText, List.map_nil, String.join_nil, String.empty_append]
    exact hk
  | cons piece ps ih =>
    cases piece with
    | text t =>
      rw [piecesBody, ih _ hk]
      simp [piecesText, Piece.inserted, String.append_assoc]
    | value v =>
      obtain ⟨w, hw, hprint⟩ := hvalue v
      have hnext := ih [] hk
      rw [piecesBody, render_withText (render_output hw hnext) reversed, hprint]
      simp [piecesText, Piece.inserted, String.append_assoc]

/-! ## Guards -/

/-- Whether a guard admits the registers of an access. -/
def Guard.admits : Guard → Option Access → Bool
  | .status, access => access = some .status
  | .trigger, access => access = some .trigger
  | .writable, access => access = some .trigger || access = some .control

/-- The comparison of a register's mode with a text. -/
lemma modeIs_holds (r : Register) (index : Nat) (isLast : Bool) (tag : String) :
    (modeIs tag).holds template (registerScope p r index isLast) = .ok (r.mode.tag = tag) := by
  have hleft : Expression.evaluate template (registerScope p r index isLast)
      ⟨.reference "reg.mode", []⟩ = .ok (.text r.mode.tag) :=
    evaluate_operand (evaluate_reference (find?_mode r index isLast))
  rw [Comparison.holds, modeIs]
  simp only [hleft]
  rfl

/-- Comparisons of a register's mode with several texts. -/
lemma holds_map_modeIs (r : Register) (index : Nat) (isLast : Bool) (tags : List String) :
    Condition.holds template (registerScope p r index isLast) (tags.map modeIs) =
      .ok (r.mode.tag ∈ tags) := by
  induction tags with
  | nil => simp [Condition.holds]
  | cons tag tags ih =>
    by_cases htag : r.mode.tag = tag
    · simp [Condition.holds, modeIs_holds, htag]
    · simp [Condition.holds, modeIs_holds, htag, ih]

/-- The condition of a guard holds for the registers that it admits. -/
theorem Guard.holds (g : Guard) (r : Register) (index : Nat) (isLast : Bool) :
    Condition.holds template (registerScope p r index isLast) g.compiled =
      .ok (g.admits r.mode.access?) := by
  rw [compiled, holds_map_modeIs]
  cases g <;> simp [tags, admits, Mode.access?_eq_some_iff, Access.tag]

/-! ## Lines -/

/-- Whether nothing of a line is dropped in front of a statement tag. -/
def Line.IsWhole (line : Line) : Prop :=
  dropBlanks (pendingAfter line ['\n']) = pendingAfter line ['\n']

/-- A line is printed on a line of its own. -/
lemma render_line (hp : Fits p) (r : Register) (index : Nat) (isLast : Bool) {line : Line}
    (hline : line.IsWhole) :
    (line.body []).render template (registerScope p r index isLast) =
      .ok ("\n" ++ piecesText (lineValue p r) line) := by
  have hend : (partEnd (pendingAfter line ['\n'])).render template
      (registerScope p r index isLast) =
        .ok (String.ofList (pendingAfter line ['\n']).reverse ++ "") := by
    rw [partEnd, hline]
    exact render_withText rfl _
  have hbody := render_piecesBody (fun v => LineValue.evaluate r index isLast (hp.lineValue v)) line
    ['\n'] hend
  rw [Line.body, hbody]
  simp

/-- The text of the first branch that admits the registers of an access. -/
def choiceText (p : Plan) (r : Register) (access : Option Access) : List Branch → String
  | [] => ""
  | b :: bs =>
    if b.guard.admits access then "\n" ++ piecesText (lineValue p r) b.line
    else choiceText p r access bs

/-- A choice prints the line of the first branch that admits the register.

**Proof sketch.** Induction on the branches; the choice between the further ones is the part that
is taken if the first one's condition does not hold. -/
lemma render_choiceBody (hp : Fits p) (r : Register) (index : Nat) (isLast : Bool)
    {branches : List Branch} (hbranches : ∀ b ∈ branches, b.line.IsWhole) :
    (choiceBody branches).render template (registerScope p r index isLast) =
      .ok (choiceText p r r.mode.access? branches) := by
  induction branches with
  | nil => rfl
  | cons b bs ih =>
    have hothers := ih fun x hx => hbranches x (List.mem_cons_of_mem b hx)
    have hpart : (if b.guard.admits r.mode.access? then b.line.body [] else choiceBody bs).render
        template (registerScope p r index isLast) =
          .ok (choiceText p r r.mode.access? (b :: bs)) := by
      rw [choiceText]
      split_ifs
      · exact render_line hp r index isLast (hbranches b List.mem_cons_self)
      · exact hothers
    rw [choiceBody, render_choose (b.guard.holds r index isLast) hpart rfl, String.append_empty]

/-- The text of a register's lines in a section. -/
def Lines.text (p : Plan) (r : Register) : Lines → String
  | .always line => "\n" ++ piecesText (lineValue p r) line
  | .choice first others => choiceText p r r.mode.access? (first :: others)

/-- Whether nothing of some lines is dropped. -/
def Lines.IsWhole : Lines → Prop
  | .always line => line.IsWhole
  | .choice first others => ∀ b ∈ first :: others, b.line.IsWhole

/-- The lines of a section are printed. -/
theorem render_lines (hp : Fits p) (r : Register) (index : Nat) (isLast : Bool) {lines : Lines}
    (hlines : lines.IsWhole) :
    (lines.body []).render template (registerScope p r index isLast) =
      .ok (lines.text p r) := by
  cases lines with
  | always line => exact render_line hp r index isLast hlines
  | choice first others => exact render_choiceBody hp r index isLast hlines

/-! ## Sections -/

/-- Nothing is dropped of a line whose last text ends visibly. -/
lemma isWhole_of_endsVisibly {line : Line} {t : String} {cs : List Char}
    (hline : pendingAfter line ['\n'] = t.toList.reverse ++ []) (ht : t = String.ofList cs)
    (hcs : cs.getLast?.any (fun c => !Text.isBlank c) = true) : line.IsWhole := by
  rw [Line.IsWhole, hline]
  exact dropBlanks_append (endsVisibly_of_eq ht hcs) []

/-- Nothing of the lines of a section is dropped. -/
lemma Section.isWhole_lines (s : Section) : s.lines.IsWhole := by
  cases s with
  | header => rfl
  | indices => exact isWhole_of_endsVisibly rfl rfl (by decide)
  | resetValues => exact isWhole_of_endsVisibly rfl rfl (by decide)
  | _ =>
    simp only [Section.lines, Lines.IsWhole, List.forall_mem_cons, List.not_mem_nil,
      IsEmpty.forall_iff, implies_true, and_true]
    repeat' apply And.intro
    all_goals
      exact isWhole_of_endsVisibly rfl rfl (by decide)

/-- A section has its line for the registers that it is for, and nothing for the others. -/
theorem Section.text_lines (s : Section) (r : Register) :
    s.lines.text p r = if s.admits r.mode.access? then "\n" ++ p.line r s else "" := by
  cases s with
  | header => rfl
  | indices => rfl
  | resetValues => rfl
  | _ =>
    -- the access of the register decides the guards of the template and the line alike
    simp only [Section.lines, Lines.text]
    unfold Plan.line
    generalize r.mode.access? = access
    rcases access with _ | _ | _ | _ <;> rfl

/-- Line breaks before the lines and one behind them are line breaks behind the lines and one before
them. -/
lemma join_lines {α : Type} (keep : α → Bool) (line : α → String) (xs : List α) :
    String.join (xs.map fun x => if keep x then "\n" ++ line x else "") ++ "\n" =
      "\n" ++ String.join (((xs.filter keep).map line).map (· ++ "\n")) := by
  induction xs with
  | nil => rfl
  | cons x xs ih =>
    rw [List.map_cons, String.join_cons, String.append_assoc, ih]
    by_cases hx : keep x
    · simp [hx, String.append_assoc]
    · simp [hx]

/-- A section is printed in front of what stands behind it. -/
lemma render_section (hp : Fits p) (s : Section) {k : List Char → Body} {rest : String}
    (hk : (k ['\n']).render template p.scope = .ok ("\n" ++ rest)) (reversed : List Char) :
    (s.body k reversed).render template p.scope =
      .ok (String.ofList reversed.reverse ++ (p.partText (.lines s) ++ rest)) := by
  have hregisters : p.scope.find? "registers" =
      .ok (some (.list (p.registers.map p.registerValue))) := by
    cbv
  have hlines : ∀ r ∈ p.registers, ∀ index isLast,
      (s.lines.body []).render template
        (p.scope.enter ⟨none, "reg", some (p.registerValue r), index, isLast⟩) =
          .ok (if s.admits r.mode.access? then "\n" ++ p.line r s else "") := by
    intro r _ index isLast
    rw [← s.text_lines]
    exact render_lines hp r index isLast s.isWhole_lines
  have hloop := render_forEach (evaluate_reference hregisters) hlines hk
  rw [← String.append_assoc, join_lines (fun r => s.admits r.mode.access?) fun r => p.line r s]
    at hloop
  rw [Section.body, registersLoop, render_withText hloop]
  simp [Plan.partText, Plan.sectionLines, String.append_assoc]

/-! ## Parts -/

/-- **The parts of a template are printed one after another.**

**Proof sketch.** Induction on the parts. What a part leaves pending is printed by the parts behind
it. -/
theorem render_partsBody (hp : Fits p) (parts : List Part) (reversed : List Char) :
    (partsBody parts reversed).render template p.scope =
      .ok (String.ofList reversed.reverse ++ String.join (parts.map p.partText)) := by
  induction parts generalizing reversed with
  | nil => exact render_withText rfl reversed
  | cons part parts ih =>
    rw [List.map_cons, String.join_cons]
    cases part with
    | frame pieces =>
      exact render_piecesBody (fun v => FrameValue.evaluate (hp.frameValue v)) pieces reversed
        (ih _)
    | lines s => exact render_section hp s (ih ['\n']) reversed

end Vhdl

/-! ## The standard renderer -/

/-- The warnings of a template's renderer do not matter to its outcome. -/
lemma Renderer.outcome_ofTemplate (name : String) (body : Body) (warnings : Plan → List Event)
    (p : Plan) : ((ofTemplate name body warnings).render p).outcome =
      (body.render name p.scope).mapError (stopFailure name) := by
  simp [ofTemplate]

/-- The standard renderer is that of the standard template's body. -/
lemma Renderer.standard_eq :
    Renderer.standard =
      .ok (.ofTemplate Vhdl.templateName (Vhdl.partsBody Vhdl.template []) Plan.warnings) := by
  rw [standard, parseTemplate, Vhdl.parse_templateSource]
  rfl

namespace Plan

variable {p : Plan}

/-- The standard renderer yields the text of the register file, if nothing in it is too wide. -/
lemma exists_standard_render (hp : Vhdl.Fits p) :
    ∃ renderer, Renderer.standard = .ok renderer ∧
      (renderer.render p).outcome = .ok p.registerFileText := by
  have hrender : (Vhdl.partsBody Vhdl.template []).render Vhdl.templateName p.scope =
      .ok p.registerFileText := by
    rw [Vhdl.render_partsBody hp Vhdl.template []]
    exact congrArg Except.ok (String.empty_append)
  refine ⟨_, Renderer.standard_eq, ?_⟩
  rw [Renderer.outcome_ofTemplate, hrender]
  rfl

/-- A reset literal denotes the value on reset, in as many bits as the register has. -/
lemma bitStringValue?_resetLiteral {r : Register} (hr : r ∈ p.registers) :
    bitStringValue? (p.resetLiteral r) = some (p.width.bits, r.initval.toNat) := by
  have hfits := (RegisterWidth.canRepresent_iff p.width r.initval).mp
    (p.admissible.representable r hr)
  have hbits : 4 * (p.width.bits / 4) = p.width.bits := by
    have := p.width.bits_mod_four
    omega
  have hpow : 2 ^ p.width.bits = 16 ^ (p.width.bits / 4) := by
    conv_lhs => rw [← hbits, pow_mul]
    rfl
  have hpos : 0 < p.width.bits / 4 := by
    have hbyte : 0 < p.width.byteWidth := Nat.two_pow_pos p.width.log2Bytes
    rw [RegisterWidth.bits]
    omega
  rw [hpow] at hfits
  rw [resetLiteral, bitStringValue?_hex hpos hfits, hbits]

end Plan

end RegisterFile

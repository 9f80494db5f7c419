import RegisterFile.Proofs.GenerationLimits
import RegisterFile.Proofs.Vhdl.DeclaredNames

set_option autoImplicit false

/-!
# Names that VHDL does not tell apart

VHDL does not distinguish upper and lower case. The standard template warns of labels that differ in
nothing else, so that without a warning no two ports and no two constants share a name. It does not
compare labels with the names of the frame, nor ports with constants, and the names of a register
file are different only if these are.

## Main definitions

* `Vhdl.foldCase` - a name as VHDL compares it.
* `KeepsApart` - the names that registers add differ from those of the frame and of each other.

## Main results

* `caseCollisions_eq_nil_iff` - no labels collide exactly if they differ in upper case.
* `Plan.warnings_eq_nil_iff` - what the standard template does not warn of.
* `declaredNames_nodup_iff` - the names that a register file declares without a warning.
-/

namespace RegisterFile

open Vhdl

/-! ## Warnings -/

/-- No label behind those seen collides exactly if the labels differ in upper case from each other
and from those seen. -/
lemma collisionsAfter_eq_nil_iff (seen : List (String × String)) (labels : List String) :
    collisionsAfter seen labels = [] ↔ (labels.map Text.uppercase).Nodup ∧
      ∀ label ∈ labels, seen.lookup (Text.uppercase label) = none := by
  induction labels generalizing seen with
  | nil => simp [collisionsAfter]
  | cons label labels ih =>
    rw [collisionsAfter]
    cases hseen : seen.lookup (Text.uppercase label) with
    | some first =>
      constructor
      · exact fun h => absurd h (List.cons_ne_nil _ _)
      · rintro ⟨-, hnone⟩
        exact absurd (hseen.symm.trans (hnone label List.mem_cons_self)) (by simp)
    | none =>
      have hlookup (l : String) :
          ((Text.uppercase label, label) :: seen).lookup (Text.uppercase l) = none ↔
            Text.uppercase label ≠ Text.uppercase l ∧ seen.lookup (Text.uppercase l) = none := by
        rw [List.lookup_cons]
        by_cases hl : Text.uppercase l = Text.uppercase label
        · simp [hl]
        · have hbeq : (Text.uppercase l == Text.uppercase label) = false := by simpa using hl
          simp only [hbeq, ne_eq, Ne.symm hl, not_false_eq_true, true_and]
      simp only [ih, hlookup, List.map_cons, List.nodup_cons, List.mem_map, not_exists, not_and,
        List.forall_mem_cons, hseen]
      constructor
      · rintro ⟨hnodup, hall⟩
        exact ⟨⟨fun l hl => Ne.symm (hall l hl).1, hnodup⟩, trivial, fun l hl => (hall l hl).2⟩
      · rintro ⟨⟨hne, hnodup⟩, -, hall⟩
        exact ⟨hnodup, fun l hl => ⟨Ne.symm (hne l hl), hall l hl⟩⟩

/-- No labels collide exactly if they differ in upper case. -/
theorem caseCollisions_eq_nil_iff (labels : List String) :
    caseCollisions labels = [] ↔ (labels.map Text.uppercase).Nodup := by
  simp [caseCollisions, collisionsAfter_eq_nil_iff]

/-- The standard template does not warn exactly if it implements all modes and no labels collide. -/
theorem Plan.warnings_eq_nil_iff (p : Plan) :
    p.warnings = [] ↔ (∀ r ∈ p.registers, r.mode.isKnown = true) ∧
      ((p.registers.map Register.label).map Text.uppercase).Nodup := by
  simp [warnings, caseCollisions_eq_nil_iff]

/-- All that the standard template warns of is a warning. -/
lemma Plan.severity_of_mem_warnings {p : Plan} {e : Event} (he : e ∈ p.warnings) :
    e.severity = .warning := by
  simp only [warnings, List.mem_append, List.mem_map] at he
  rcases he with ⟨r, -, rfl⟩ | ⟨labels, -, rfl⟩
  · rfl
  · rfl

/-- The renderer of a template tells its warnings. -/
lemma Renderer.events_ofTemplate (name : String) (body : Template.Body)
    (warnings : Plan → List Event) (p : Plan) :
    ((ofTemplate name body warnings).render p).events = warnings p := by
  have hsilent : (Logged.ofExcept (stopFailure name) (body.render name p.scope)).events = [] := by
    cases body.render name p.scope <;> rfl
  change warnings p ++ (Logged.ofExcept (stopFailure name) (body.render name p.scope)).events = _
  rw [hsilent, List.append_nil]

/-- The standard renderer tells no warning exactly if there is nothing to warn of. -/
lemma Renderer.standard_quiet_iff {renderer : Renderer} (h : Renderer.standard = .ok renderer)
    (p : Plan) : (∀ e ∈ (renderer.render p).events, e.severity ≠ .warning) ↔ p.warnings = [] := by
  obtain rfl : Renderer.ofTemplate _ _ _ = renderer := Except.ok.inj (standard_eq.symm.trans h)
  rw [events_ofTemplate]
  constructor
  · intro hquiet
    exact List.eq_nil_iff_forall_not_mem.mpr fun e he =>
      hquiet e he (Plan.severity_of_mem_warnings he)
  · intro hnil e he
    simp [hnil] at he

/-! ## Names without case -/

/-- A name as VHDL compares it: upper and lower case are the same. -/
def Vhdl.foldCase (s : String) : List Char := s.toList.map Char.toUpper

/-- Two texts one behind the other are compared one behind the other. -/
@[simp] lemma foldCase_append (s t : String) : foldCase (s ++ t) = foldCase s ++ foldCase t := by
  rw [foldCase, String.toList_append, List.map_append]
  rfl

/-- The names that registers add to a register file differ from those of the frame, and those of
their ports from those of their constants. -/
structure KeepsApart (registers : List Register) : Prop where
  port_ne_frame : ∀ r ∈ registers, ∀ name ∈ frameNames, foldCase r.label ≠ foldCase name
  constant_ne_frame : ∀ r ∈ registers, ∀ name ∈ frameNames,
    foldCase ("C_" ++ r.label) ≠ foldCase name
  port_ne_constant : ∀ r ∈ registers, ∀ s ∈ registers,
    foldCase r.label ≠ foldCase ("C_" ++ s.label)

/-- The names of the frame differ. -/
lemma nodup_frameNames : (frameNames.map foldCase).Nodup := by
  decide +kernel

section

variable {registers : List Register} (hlabels : ∀ r ∈ registers, isIdentifier r.label = true)

include hlabels

/-- VHDL compares labels in upper case. -/
lemma map_foldCase_label : (registers.map Register.label).map foldCase =
    ((registers.map Register.label).map Text.uppercase).map String.toList := by
  rw [List.map_map, List.map_map, List.map_map]
  exact List.map_congr_left fun r hr => (toList_uppercase (hlabels r hr)).symm

/-- The name of a constant is compared like the label behind its start. -/
lemma foldCase_constantName {r : Register} (hr : r ∈ registers) :
    foldCase r.constantName = foldCase ("C_" ++ r.label) := by
  have hupper : (r.label.toList.map Char.toUpper).map Char.toUpper =
      r.label.toList.map Char.toUpper := by
    rw [List.map_map]
    exact List.map_congr_left fun c hc =>
      (isNameChar_toUpper (isNameChar_of_mem (hlabels r hr) hc)).2
  rw [Register.constantName, foldCase_append, foldCase_append, foldCase, foldCase, foldCase,
    toList_uppercase (hlabels r hr), hupper]

/-- VHDL compares the names of constants like the labels behind their start. -/
lemma map_foldCase_constantName : (registers.map Register.constantName).map foldCase =
    ((registers.map Register.label).map foldCase).map (foldCase "C_" ++ ·) := by
  rw [List.map_map, List.map_map, List.map_map]
  refine List.map_congr_left fun r hr => ?_
  simp only [Function.comp_apply]
  rw [foldCase_constantName hlabels hr, foldCase_append]

/-- Ports that differ and constants that differ make all names different, if the registers keep
their names apart. -/
lemma nodup_names_iff (hnodup : ((registers.map Register.label).map Text.uppercase).Nodup) :
    ((frameNames ++ (registers.map Register.label ++
      registers.map Register.constantName)).map foldCase).Nodup ↔ KeepsApart registers := by
  have hports : ((registers.map Register.label).map foldCase).Nodup := by
    rw [map_foldCase_label hlabels]
    exact hnodup.map fun _ _ h => String.toList_injective h
  have hconstants : ((registers.map Register.constantName).map foldCase).Nodup := by
    rw [map_foldCase_constantName hlabels]
    exact hports.map (List.append_right_injective _)
  have hconstant {r : Register} (hr : r ∈ registers) := foldCase_constantName hlabels hr
  rw [List.map_append, List.map_append, List.nodup_append, List.nodup_append]
  simp only [nodup_frameNames, hports, hconstants, true_and]
  simp only [List.map_map, List.mem_append, List.forall_mem_map, or_imp, forall_and,
    Function.comp_apply]
  constructor
  · rintro ⟨hapart, hport, hindex⟩
    exact {
      port_ne_frame := fun r hr name hname => (hport name hname r hr).symm
      constant_ne_frame := fun r hr name hname heq =>
        hindex name hname r hr (heq.symm.trans (hconstant hr).symm)
      port_ne_constant := fun r hr s hs heq => hapart r hr s hs (heq.trans (hconstant hs).symm) }
  · intro h
    refine ⟨fun r hr s hs heq => ?_, fun name hname r hr => ?_, fun name hname r hr heq => ?_⟩
    · exact h.port_ne_constant r hr s hs (heq.trans (hconstant hs))
    · exact (h.port_ne_frame r hr name hname).symm
    · exact h.constant_ne_frame r hr name hname ((hconstant hr).symm.trans heq.symm)

end

/-! ## Declarations without a warning -/

/-- The labels, their upper case and the modes have no line breaks where labels are identifiers and
modes are known. -/
lemma unbroken_of_isIdentifier {r : Register} (hlabel : isIdentifier r.label = true)
    (hmode : r.mode.isKnown = true) :
    Unbroken r.label ∧ Unbroken (Text.uppercase r.label) ∧ Unbroken r.mode.tag := by
  refine ⟨fun h => ?_, fun h => ?_, Mode.unbroken_tag hmode⟩
  · exact absurd (isNameChar_of_mem hlabel h) (by decide)
  · exact absurd (isNameChar_of_mem_uppercase hlabel h) (by decide)

/-- **The names that a register file declares without a warning.** The lines of the plan make up the
text, and are its lines if the module name is on one line. The names that they declare differ
exactly if no label and no constant for an index is the name of something in the frame and no label
is the constant of another one.

**Proof sketch.** The names are those of the frame, the labels and the constants
(`Plan.declaredNames_perm`). Those of the frame differ. Without a warning the labels differ in upper
case, and so do the constants. -/
theorem declaredNames_nodup_iff {moduleName : String} {registers : List Register} {bits : UInt32}
    {p : Plan} (h : plan moduleName registers bits = .ok p)
    (hlabels : ∀ r ∈ registers, isIdentifier r.label = true)
    {renderer : Renderer} (hrenderer : Renderer.standard = .ok renderer) {text : String}
    (htext : (renderer.render p).outcome = .ok text)
    (hquiet : ∀ e ∈ (renderer.render p).events, e.severity ≠ .warning) :
    ['\n'].intercalate p.lines = text.toList ∧
      (Unbroken moduleName → text.toList.splitOn '\n' = p.lines) ∧
      (((declaredNames p.lines).map foldCase).Nodup ↔ KeepsApart registers) := by
  obtain ⟨rfl, rfl, -⟩ := plan_eq_ok h
  obtain rfl := Renderer.eq_registerFileText hrenderer htext
  obtain ⟨hmodes, hnodup⟩ :=
    p.warnings_eq_nil_iff.mp ((Renderer.standard_quiet_iff hrenderer p).mp hquiet)
  refine ⟨p.intercalate_lines, fun hname => ?_, ?_⟩
  · exact p.splitOn_registerFileText hname fun r hr =>
      unbroken_of_isIdentifier (hlabels r hr) (hmodes r hr)
  · rw [((p.declaredNames_perm hlabels hmodes).map foldCase).nodup_iff]
    exact nodup_names_iff hlabels hnodup

/-- A plan that fits and has nothing to warn of is rendered without a warning. -/
lemma exists_quiet_render {p : Plan} (hfits : Fits p) (hwarnings : p.warnings = []) :
    ∃ renderer text, Renderer.standard = .ok renderer ∧ (renderer.render p).outcome = .ok text ∧
      ∀ e ∈ (renderer.render p).events, e.severity ≠ .warning := by
  obtain ⟨renderer, hrenderer, htext⟩ := p.exists_standard_render hfits
  exact ⟨renderer, _, hrenderer, htext, (Renderer.standard_quiet_iff hrenderer p).mpr hwarnings⟩

/-- The registers of the sample declaration keep their names apart. -/
theorem declaredNames_nodup_sample :
    ∃ p renderer text, plan "regfile" Declaration.sample.registers 32 = .ok p ∧
      Renderer.standard = .ok renderer ∧ (renderer.render p).outcome = .ok text ∧
      (∀ e ∈ (renderer.render p).events, e.severity ≠ .warning) ∧
      ((declaredNames (text.toList.splitOn '\n')).map foldCase).Nodup := by
  obtain ⟨p, hplan, hregisters, hbits⟩ : ∃ p,
      plan "regfile" Declaration.sample.registers 32 = .ok p ∧
        p.registers = Declaration.sample.registers ∧ p.width.bits = 32 := ⟨_, rfl, rfl, rfl⟩
  have hfits : Fits p := (fits_iff p).mpr (by rw [hregisters, hbits]; decide)
  have hwarnings : p.warnings = [] :=
    p.warnings_eq_nil_iff.mpr (by rw [hregisters]; decide +kernel)
  obtain ⟨renderer, text, hrenderer, htext, hquiet⟩ := exists_quiet_render hfits hwarnings
  obtain ⟨-, hsplit, hnodup⟩ :=
    declaredNames_nodup_iff hplan (by decide +kernel) hrenderer htext hquiet
  refine ⟨p, renderer, text, hplan, hrenderer, htext, hquiet, ?_⟩
  rw [hsplit (notMem_toList rfl (by decide))]
  exact hnodup.mpr ⟨by decide +kernel, by decide +kernel, by decide +kernel⟩

/-- A declaration of one register that is named like a signal of the frame. -/
def Declaration.redeclaring : Declaration where
  moduleName := "m"
  registerWidth := 32
  registers := [⟨0, "regs", ⟨Access.control.tag⟩, 0, by decide⟩]

/-- Its register file declares the name twice, and there is no warning. -/
theorem declaredNames_not_nodup_redeclaring :
    ∃ p renderer text, plan "m" Declaration.redeclaring.registers 32 = .ok p ∧
      (∀ r ∈ p.registers, isIdentifier r.label = true ∧ r.mode.isKnown = true) ∧
      Renderer.standard = .ok renderer ∧ (renderer.render p).outcome = .ok text ∧
      (∀ e ∈ (renderer.render p).events, e.severity ≠ .warning) ∧
      ¬ ((declaredNames (text.toList.splitOn '\n')).map foldCase).Nodup := by
  obtain ⟨p, hplan, hname, hregisters, hbits⟩ : ∃ p,
      plan "m" Declaration.redeclaring.registers 32 = .ok p ∧ p.moduleName = "m" ∧
        p.registers = Declaration.redeclaring.registers ∧ p.width.bits = 32 :=
    ⟨_, rfl, rfl, rfl, rfl⟩
  have hfits : Fits p := (fits_iff p).mpr (by rw [hregisters, hbits]; decide)
  have hwarnings : p.warnings = [] :=
    p.warnings_eq_nil_iff.mpr (by rw [hregisters]; decide +kernel)
  have hlabels : ∀ r ∈ p.registers, isIdentifier r.label = true ∧ r.mode.isKnown = true := by
    rw [hregisters]
    decide +kernel
  obtain ⟨renderer, text, hrenderer, htext, hquiet⟩ := exists_quiet_render hfits hwarnings
  refine ⟨p, renderer, text, hplan, hlabels, hrenderer, htext, hquiet, fun hnodup => ?_⟩
  have hsplit := p.splitOn_registerFileText (by rw [hname]; exact notMem_toList rfl (by decide))
    fun r hr => unbroken_of_isIdentifier (hlabels r hr).1 (hlabels r hr).2
  have hperm := p.declaredNames_perm (fun r hr => (hlabels r hr).1) fun r hr => (hlabels r hr).2
  rw [Renderer.eq_registerFileText hrenderer htext, hsplit, (hperm.map foldCase).nodup_iff,
    List.map_append, List.nodup_append] at hnodup
  have hframe : foldCase "regs" ∈ frameNames.map foldCase :=
    List.mem_map_of_mem (by simp [frameNames])
  have hport : foldCase "regs" ∈
      (p.registers.map Register.label ++ p.registers.map Register.constantName).map foldCase :=
    List.mem_map_of_mem (by simp [hregisters, Declaration.redeclaring])
  exact hnodup.2.2 _ hframe _ hport rfl

end RegisterFile

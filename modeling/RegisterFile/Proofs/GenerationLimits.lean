import RegisterFile.Generation
import RegisterFile.Proofs.Vhdl.Limits

set_option autoImplicit false

/-!
# Limits of generation

Planning accepts registers of up to `2 ^ 31` bits and labels of any length. The standard template
writes reset values with a digit for every four bits and fills labels up to the longest one, and
neither may take more than 65535 characters. So a planned declaration has a register file exactly if
its registers have at most `2 ^ 17` bits and its labels at most 65535 characters, and a register
table exactly if its labels do. All others break off, and nothing else goes wrong behind planning.

## Main results

* `Vhdl.fits_iff` - the limits in terms of bits and labels.
* `registerTable_endsWithin` - when there is a register table.
* `generate_of_planDeclaration` - when there is a register file, and what it and the table are.
* `wide_registers_break_off` - a declaration that can be planned and has no register file.
-/

namespace RegisterFile

/-! ## Limits -/

/-- The column of labels is as narrow as its labels are short. -/
lemma labelColumn_le_iff (p : Plan) (n : Nat) :
    p.labelColumn ≤ n ↔ ∀ r ∈ p.registers, r.label.length ≤ n :=
  ⟨fun h _ hr => (labelWidth_le_longestLabel hr).trans h, longestLabel_le⟩

/-- The digits of a reset value fit in a field up to a width of `2 ^ 17` bits. -/
lemma RegisterWidth.digits_le_widestField_iff (w : RegisterWidth) :
    w.bits / 4 ≤ Text.widestField ↔ w.bits ≤ 2 ^ 17 := by
  have hdigits : w.bits / 4 = 2 ^ (w.log2Bytes + 1) := by
    rw [bits_eq_two_pow, pow_add 2 _ 3, pow_add 2 _ 1]
    omega
  have hlt : w.bits / 4 ≤ Text.widestField ↔ w.bits / 4 < 2 ^ 16 := Nat.lt_succ_iff.symm
  rw [hlt, hdigits, bits_eq_two_pow, Nat.pow_lt_pow_iff_right (by decide),
    Nat.pow_le_pow_iff_right (by decide)]
  omega

/-- Nothing in the register file of a plan is too wide if its registers and labels are not. -/
theorem Vhdl.fits_iff (p : Plan) :
    Vhdl.Fits p ↔ p.width.bits ≤ 2 ^ 17 ∧ ∀ r ∈ p.registers, r.label.length ≤ 65535 := by
  rw [← p.width.digits_le_widestField_iff, ← labelColumn_le_iff]
  exact ⟨fun h => ⟨h.digits, h.column⟩, fun h => ⟨h.2, h.1⟩⟩

/-! ## Tables -/

/-- A table has the registers of its plan in another order. -/
lemma Plan.perm_sorted (p : Plan) (sorting : Sorting) : (p.sorted sorting).Perm p.registers := by
  cases sorting with
  | preserve => exact .refl _
  | address => exact List.mergeSort_perm _ _
  | alpha => exact List.mergeSort_perm _ _

/-- There is a register table exactly if no label is too long. -/
theorem registerTable_endsWithin (p : Plan) (sorting : Sorting) :
    EndsWithin id (∀ r ∈ p.registers, r.label.length ≤ 65535) (registerTable p sorting) :=
  ((endsWithin_fieldWidth p.labelColumn).congr (labelColumn_le_iff p _)).map _

/-- A table has the lines of its registers, if no label is too long. -/
lemma registerTable_eq_ok {p : Plan} (h : p.labelColumn ≤ 65535) (sorting : Sorting) :
    registerTable p sorting = .ok ((p.sorted sorting).map (registerLine p.labelColumn)) := by
  rw [registerTable, Text.fieldWidth_eq_ok h]
  rfl

/-- A register table has a line for each register, filled up to the column of labels. -/
lemma eq_of_registerTable_eq_ok {p : Plan} {sorting : Sorting} {lines : List String}
    (h : registerTable p sorting = .ok lines) :
    lines = (p.sorted sorting).map (registerLine p.labelColumn) := by
  unfold registerTable Text.fieldWidth at h
  split at h
  · exact (Except.ok.inj h).symm
  · cases h

/-! ## Generation -/

/-- The outcome of generation behind planning is that of the renderer. -/
lemma outcome_generate_standard (files : Files.Tree) {d : Declaration} {o : Options} {p : Plan}
    (htemplate : o.template = .standard) (hplan : (planDeclaration d o).outcome = .ok p)
    {renderer : Renderer} (hrenderer : Renderer.standard = .ok renderer) :
    (generate files d o).outcome = (renderer.render p).outcome := by
  simp [generate, hplan, htemplate, TemplateSource.load, hrenderer]

/-- **What becomes of a planned declaration.** With the standard template there is a register file
exactly if the registers have at most `2 ^ 17` bits and the labels at most 65535 characters, and it
is the text of the plan. In every order there is a register table with a line for each register
exactly if the labels have at most 65535 characters. Otherwise the run breaks off at a field that is
too wide.

**Proof sketch.** The body of the template has a text exactly if no value in it is too wide
(`Vhdl.endsWithin_partsBody`). One column of labels and one reset value are enough for that, and
both occur since a plan has a register. -/
theorem generate_of_planDeclaration (files : Files.Tree) {d : Declaration} {o : Options} {p : Plan}
    (htemplate : o.template = .standard) (hplan : (planDeclaration d o).outcome = .ok p) :
    EndsWithin Failure.tooWide
        (p.width.bits ≤ 2 ^ 17 ∧ ∀ r ∈ p.registers, r.label.length ≤ 65535)
        (generate files d o).outcome ∧
      (∀ text, (generate files d o).outcome = .ok text → text = p.registerFileText) ∧
      ∀ sorting,
        EndsWithin Failure.tooWide (∀ r ∈ p.registers, r.label.length ≤ 65535)
            (tableLines p sorting).outcome ∧
          ∀ lines, (tableLines p sorting).outcome = .ok lines →
            ∃ rs : List Register, rs.Perm p.registers ∧
              lines = rs.map (registerLine p.labelColumn) := by
  have hgenerate := outcome_generate_standard files htemplate hplan Renderer.standard_eq
  have hrender := Renderer.standard_endsWithin Renderer.standard_eq p
  refine ⟨?_, fun text htext => ?_, fun sorting => ⟨?_, fun lines hlines => ?_⟩⟩
  · rw [hgenerate]
    exact hrender.congr (Vhdl.fits_iff p)
  · exact Renderer.eq_registerFileText Renderer.standard_eq (hgenerate.symm.trans htext)
  · rw [tableLines, Logged.outcome_ofExcept]
    exact (registerTable_endsWithin p sorting).mapError _
  · rw [tableLines, Logged.outcome_ofExcept] at hlines
    cases htable : registerTable p sorting with
    | error field => simp [htable, Except.mapError] at hlines
    | ok table =>
      obtain rfl : table = lines := by simpa [htable, Except.mapError] using hlines
      exact ⟨_, p.perm_sorted sorting, eq_of_registerTable_eq_ok htable⟩

/-- The sample declaration has a register file. -/
theorem generate_sample :
    ∃ p, (planDeclaration .sample .standard).outcome = .ok p ∧
      ∃ text, (generate .empty .sample .standard).outcome = .ok text := by
  refine ⟨_, rfl, ?_⟩
  have h := @generate_of_planDeclaration .empty .sample .standard _ rfl rfl
  exact h.1.exists_ok_iff.mpr (by decide)

/-- A declaration of one register that is wider than the standard template can write. -/
def Declaration.tooWide : Declaration where
  moduleName := "m"
  registerWidth := 262144
  registers := [⟨0, "big", ⟨Access.control.tag⟩, 1, by decide⟩]

/-- It can be planned, but has no register file. -/
theorem wide_registers_break_off :
    ∃ p, (planDeclaration .tooWide .standard).outcome = .ok p ∧
      ∃ field, (generate .empty .tooWide .standard).outcome = .error (Failure.tooWide field) := by
  obtain ⟨p, hplan, hbits⟩ : ∃ p, (planDeclaration .tooWide .standard).outcome = .ok p ∧
      p.width.bits = 262144 := ⟨_, rfl, rfl⟩
  refine ⟨p, hplan, ?_⟩
  rw [outcome_generate_standard .empty rfl hplan Renderer.standard_eq]
  rcases Renderer.standard_endsWithin Renderer.standard_eq p with ⟨hfits, -⟩ | ⟨-, field, -, h⟩
  · exact absurd ((Vhdl.fits_iff p).mp hfits).1 (by omega)
  · exact ⟨field, h⟩

end RegisterFile

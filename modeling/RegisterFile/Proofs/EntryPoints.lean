import RegisterFile.Proofs.DeclarationText
import RegisterFile.Proofs.FileGeneration
import RegisterFile.Proofs.GenerationLimits

set_option autoImplicit false

/-!
# The ways to a register file

There are three ways to the text of a register file: from a declaration, from a file that holds one
into another file, and from a list of registers with a renderer. All of them plan, load a template
and render, and a name and a width can be given as options or in the declaration.

The second way is the first one between reading and writing. Its outcome is that of its stages, one
after another in the tree before the run, so that the first stage that fails decides it.

## Main definitions

* `FollowsStages` - a run from a file to a file ends as its stages do on their own.

## Main results

* `generateFromFile_eq_ok_iff`, `generateFromFile_eq_error_iff` - what is generated from a file is
  what parsing, planning and generation yield.
* `followsStages_generateToFile` - a run from a file to a file follows its stages.
* `outcome_renderRegisters` - any renderer is given the plan.
* `generate_eq_adjusted` - options can be written into the declaration.
* `generate_eq_renderRegisters` - the way from a declaration is the way from its registers.
* `entryPoints_agree` - the three ways agree.
-/

namespace RegisterFile

open Logged

/-! ## Stages -/

/-- Reading a declaration reads a text and parses it. -/
lemma outcome_readDeclaration (files : Files.Tree) (path : String) :
    (readDeclaration files path).outcome = (files.readText path).mapError .file >>= fun text =>
      (Declaration.parse text).mapError .declaration := by
  simp only [readDeclaration, outcome_bind, outcome_ofExcept]
  refine bind_congr fun text => ?_
  cases Declaration.parse text <;> simp

/-- The outcome of reading the declaration in a file with the given text is that of parsing it. -/
lemma outcome_readDeclaration_of_readText {files : Files.Tree} {path text : String}
    (hread : files.readText path = .ok text) :
    (readDeclaration files path).outcome = (Declaration.parse text).mapError .declaration := by
  rw [outcome_readDeclaration, hread]
  rfl

/-- The outcome of planning does not depend on what it tells. -/
lemma outcome_planRegisters (moduleName : String) (registers : List Register) (bits : UInt32) :
    (planRegisters moduleName registers bits).outcome =
      (plan moduleName registers bits).mapError .plan := by
  cases h : plan moduleName registers bits <;> simp [planRegisters, h]

/-- Planning a declaration is planning its registers, with the name and the width that the options
leave it. -/
lemma outcome_planDeclaration (d : Declaration) (o : Options) :
    (planDeclaration d o).outcome =
      (plan (o.moduleName.getD d.moduleName) d.registers
        (o.registerWidth.getD d.registerWidth)).mapError .plan :=
  outcome_planRegisters ..

/-- Generation plans, loads the template and renders. -/
lemma outcome_generate (files : Files.Tree) (d : Declaration) (o : Options) :
    (generate files d o).outcome = (planDeclaration d o).outcome >>= fun p =>
      (o.template.load files).outcome >>= fun renderer => (renderer.render p).outcome := by
  simp [generate]

section

variable {files : Files.Tree} {input output text : String} {o : Options}

/-- What is generated from a file is what planning and generation yield for the declaration in
it. -/
theorem generateFromFile_eq_ok_iff (hread : files.readText input = .ok text) {p : Plan}
    {s : String} :
    (generateFromFile files input o).outcome = .ok (p, s) ↔
      ∃ d, Declaration.parse text = .ok d ∧ (planDeclaration d o).outcome = .ok p ∧
        (generate files d o).outcome = .ok s := by
  simp only [generateFromFile, outcome_bind, outcome_readDeclaration_of_readText hread,
    outcome_generate, outcome_pure, bind_eq_ok_iff, mapError_eq_ok_iff, Except.ok.injEq,
    Prod.mk.injEq]
  constructor
  · rintro ⟨d, hparse, q, hplan, renderer, hload, t, hrender, rfl, rfl⟩
    exact ⟨d, hparse, hplan, q, hplan, renderer, hload, hrender⟩
  · rintro ⟨d, hparse, hplan, q, hplan', renderer, hload, hrender⟩
    obtain rfl : p = q := Except.ok.inj (hplan.symm.trans hplan')
    exact ⟨d, hparse, p, hplan, renderer, hload, s, hrender, rfl, rfl⟩

/-- Generation from a file fails where its text is no declaration, and where generation from the
declaration in it fails. -/
theorem generateFromFile_eq_error_iff (hread : files.readText input = .ok text)
    {failure : Failure} :
    (generateFromFile files input o).outcome = .error failure ↔
      (∃ fault, Declaration.parse text = .error fault ∧ .declaration fault = failure) ∨
        ∃ d, Declaration.parse text = .ok d ∧ (generate files d o).outcome = .error failure := by
  simp only [generateFromFile, outcome_bind, outcome_readDeclaration_of_readText hread,
    outcome_generate, outcome_pure, bind_eq_error_iff, mapError_eq_ok_iff, mapError_eq_error_iff,
    reduceCtorEq, and_false, exists_false, or_false]

/-! ## From a file to a file -/

/-- A run that fails before it writes ends with that failure. -/
lemma outcome_generateToFile_of_error {failure : Failure}
    (h : (generateFromFile files input o).outcome = .error failure) :
    (generateToFile files input output o).1.outcome = .error failure := by
  rw [outcome_generateToFile, h]
  rfl

/-- A run that gets to writing writes its text where one can be written. -/
lemma generateToFile_of_ok {p : Plan} {s : String}
    (h : (generateFromFile files input o).outcome = .ok (p, s))
    (hwritable : files.IsWritable output) :
    (generateToFile files input output o).1.outcome = .ok p ∧
      (generateToFile files input output o).2.readText output = .ok s := by
  obtain ⟨hwrite, hwritten⟩ := hwritable.writeText s
  rw [outcome_generateToFile, h, ok_bind, hwrite, files_generateToFile_of_ok h]
  exact ⟨rfl, hwritten.readText⟩

/-- A run that succeeds has written what it has generated. -/
lemma exists_written_of_generateToFile {p : Plan}
    (h : (generateToFile files input output o).1.outcome = .ok p) :
    ∃ s, (generateFromFile files input o).outcome = .ok (p, s) ∧
      (files.writeText output s).1 = .ok () ∧
      (generateToFile files input output o).2 = (files.writeText output s).2 := by
  simp only [outcome_generateToFile, bind_eq_ok_iff, mapError_eq_ok_iff] at h
  obtain ⟨⟨q, s⟩, hgenerated, ⟨⟩, hwrite, hplan⟩ := h
  obtain rfl : q = p := Except.ok.inj hplan
  exact ⟨s, hgenerated, hwrite, files_generateToFile_of_ok hgenerated⟩

end

/-- A run from a file with the given text to the file `output` ends as its stages do on their own in
the tree before the run: it succeeds exactly if they all do, with their results, and otherwise fails
as the first of them that fails. -/
structure FollowsStages (files : Files.Tree) (text : String) (o : Options) (output : String)
    (result : Except Failure Plan) (files' : Files.Tree) : Prop where
  /-- The run succeeds with a plan and leaves a text in its output exactly if planning and
  generation yield them. -/
  success : files.IsWritable output → ∀ p s,
    (result = .ok p ∧ files'.readText output = .ok s) ↔
      ∃ d, Declaration.parse text = .ok d ∧ (planDeclaration d o).outcome = .ok p ∧
        (generate files d o).outcome = .ok s
  /-- A text that is no declaration is told as such. -/
  parsing : ∀ fault, Declaration.parse text = .error fault → result = .error (.declaration fault)
  /-- A failure of planning is that of the run and of generation. -/
  planning : ∀ d failure, Declaration.parse text = .ok d →
    (planDeclaration d o).outcome = .error failure →
      result = .error failure ∧ (generate files d o).outcome = .error failure
  /-- Behind planning, a failure of loading the template is that of the run and of generation. -/
  loading : ∀ d p failure, Declaration.parse text = .ok d → (planDeclaration d o).outcome = .ok p →
    (o.template.load files).outcome = .error failure →
      result = .error failure ∧ (generate files d o).outcome = .error failure
  /-- Behind loading, a failure of rendering is that of the run and of generation. -/
  rendering : ∀ d p renderer failure, Declaration.parse text = .ok d →
    (planDeclaration d o).outcome = .ok p → (o.template.load files).outcome = .ok renderer →
      (renderer.render p).outcome = .error failure →
        result = .error failure ∧ (generate files d o).outcome = .error failure

/-- **A run from a file to a file follows its stages.**

**Proof sketch.** The results and failures of what is generated from the file are those of parsing,
planning and generation, and where something is generated nothing but writing can fail. -/
theorem followsStages_generateToFile {files : Files.Tree} {input text : String}
    (hread : files.readText input = .ok text) (output : String) (o : Options) :
    FollowsStages files text o output (generateToFile files input output o).1.outcome
      (generateToFile files input output o).2 := by
  have hfailure : ∀ d failure, Declaration.parse text = .ok d →
      (generate files d o).outcome = .error failure →
        (generateToFile files input output o).1.outcome = .error failure :=
    fun d failure hparse hgenerate => outcome_generateToFile_of_error
      ((generateFromFile_eq_error_iff hread).mpr (.inr ⟨d, hparse, hgenerate⟩))
  constructor
  case success =>
    intro hwritable p s
    rw [← generateFromFile_eq_ok_iff hread]
    constructor
    · rintro ⟨hresult, htext⟩
      obtain ⟨s', hs', -⟩ := exists_written_of_generateToFile hresult
      have hwritten := (generateToFile_of_ok hs' hwritable).2
      rwa [Except.ok.inj (hwritten.symm.trans htext)] at hs'
    · exact fun hgenerated => generateToFile_of_ok hgenerated hwritable
  case parsing =>
    exact fun fault hparse => outcome_generateToFile_of_error
      ((generateFromFile_eq_error_iff hread).mpr (.inl ⟨fault, hparse, rfl⟩))
  case planning =>
    intro d failure hparse hplan
    have hgenerate : (generate files d o).outcome = .error failure := by
      simp [outcome_generate, hplan]
    exact ⟨hfailure d failure hparse hgenerate, hgenerate⟩
  case loading =>
    intro d p failure hparse hplan hload
    have hgenerate : (generate files d o).outcome = .error failure := by
      simp [outcome_generate, hplan, hload]
    exact ⟨hfailure d failure hparse hgenerate, hgenerate⟩
  case rendering =>
    intro d p renderer failure hparse hplan hload hrender
    have hgenerate : (generate files d o).outcome = .error failure := by
      simp [outcome_generate, hplan, hload, hrender]
    exact ⟨hfailure d failure hparse hgenerate, hgenerate⟩

/-! ## Options and renderers -/

/-- **Any renderer is given the plan**, and what it makes of the plan is the outcome. Without a plan
it is not asked. -/
theorem outcome_renderRegisters (registers : List Register) (moduleName : String) (bits : UInt32)
    (renderer : Renderer) :
    (renderRegisters registers moduleName bits renderer).outcome =
      (plan moduleName registers bits).mapError .plan >>= fun p => (renderer.render p).outcome := by
  simp [renderRegisters, outcome_planRegisters]

example : (renderRegisters Declaration.sample.registers "regfile" 32 .summary).outcome =
    .ok "regfile 4 4" := by
  cbv

example : (renderRegisters [] "regfile" 32 .summary).outcome = .error (.plan .noRegisters) := rfl

example : (renderRegisters Declaration.sample.registers "regfile" 32 (.refusing "no")).outcome =
    .error (.render (.template (.refused "no"))) := rfl

/-- A name and a width that options give can be written into the declaration instead. -/
theorem generate_eq_adjusted (files : Files.Tree) (d : Declaration) (o : Options) :
    generate files d o = generate files (o.adjust d) ⟨none, none, o.template⟩ := rfl

/-- With the standard template, the way from a declaration is the way from its registers. -/
theorem generate_eq_renderRegisters (files : Files.Tree) (d : Declaration) {o : Options}
    (htemplate : o.template = .standard) {renderer : Renderer}
    (hrenderer : Renderer.standard = .ok renderer) :
    generate files d o = renderRegisters d.registers (o.moduleName.getD d.moduleName)
      (o.registerWidth.getD d.registerWidth) renderer := by
  have hload : o.template.load files = pure renderer := by
    rw [htemplate, TemplateSource.load, hrenderer]
    rfl
  rw [generate, hload]
  rfl

/-! ## Agreement -/

/-- **The ways to a register file agree.** From a file to a file, a run ends as its stages do on
their own. Options that name a module or give a width do what a declaration with that name and that
width does. With the standard template, a declaration leads where its registers lead, in results, in
failures and in what is told. -/
theorem entryPoints_agree (files : Files.Tree) (o : Options) :
    (∀ input text output, files.readText input = .ok text →
      FollowsStages files text o output (generateToFile files input output o).1.outcome
        (generateToFile files input output o).2) ∧
    (∀ d : Declaration, generate files d o =
      generate files
        { d with
          moduleName := o.moduleName.getD d.moduleName
          registerWidth := o.registerWidth.getD d.registerWidth }
        { o with moduleName := none, registerWidth := none }) ∧
    (o.template = .standard → ∃ renderer, Renderer.standard = .ok renderer ∧
      ∀ d : Declaration, generate files d o = renderRegisters d.registers
        (o.moduleName.getD d.moduleName) (o.registerWidth.getD d.registerWidth) renderer) := by
  refine ⟨fun input text output hread => ?_, fun d => generate_eq_adjusted files d o, ?_⟩
  · exact followsStages_generateToFile hread output o
  · intro htemplate
    exact ⟨_, Renderer.standard_eq, fun d =>
      generate_eq_renderRegisters files d htemplate Renderer.standard_eq⟩

/-! ## An example -/

/-- A file tree with nothing but a text in a file. -/
def Files.Tree.holding (text : String) : Files.Tree :=
  ⟨[], [(["regfile.json"], .file text.toUTF8)]⟩

/-- The text is in its file. -/
lemma Files.Tree.readText_holding (text : String) :
    (holding text).readText "regfile.json" = .ok text := by
  have hlocate : locate (holding text) "regfile.json" = .ok ["regfile.json"] := rfl
  have hentry : entry? (holding text) ["regfile.json"] = some (.file text.toUTF8) := rfl
  simp only [readText, hlocate, hentry, fromUTF8?_toUTF8]

/-- A register file can be written into a new directory. -/
lemma Files.Tree.isWritable_holding (text : String) :
    (holding text).IsWritable "hdl/regfile.vhd" := ⟨"", rfl⟩

/-- A file tree with nothing but the sample declaration. -/
def Files.Tree.sample : Files.Tree := holding Declaration.sample.toJson.compact

/-- The sample declaration is read from its text. -/
lemma Declaration.parse_sample : parse sample.toJson.compact = .ok sample := by
  rw [parse, Json.parse_compact sample.faithful_toJson]
  exact sample.ofJson_toJson

/-- The sample declaration has a plan that fits. -/
lemma planDeclaration_sample :
    ∃ p, (planDeclaration .sample .standard).outcome = .ok p ∧ Vhdl.Fits p := by
  obtain ⟨p, hplan, hregisters, hbits⟩ : ∃ p,
      (planDeclaration .sample .standard).outcome = .ok p ∧
        p.registers = Declaration.sample.registers ∧ p.width.bits = 32 := ⟨_, rfl, rfl, rfl⟩
  exact ⟨p, hplan, (Vhdl.fits_iff p).mpr (by rw [hregisters, hbits]; decide)⟩

/-- The file of the sample declaration leads to a register file in a new directory, and so do its
registers. A run that is wrong both in the width and in the template fails in planning. -/
theorem entryPoints_agree_sample :
    ∃ p, Files.Tree.sample.readText "regfile.json" = .ok Declaration.sample.toJson.compact ∧
      Files.Tree.sample.IsWritable "hdl/regfile.vhd" ∧
      (generateToFile .sample "regfile.json" "hdl/regfile.vhd" .standard).1.outcome = .ok p ∧
      (generateToFile .sample "regfile.json" "hdl/regfile.vhd" .standard).2.readText
        "hdl/regfile.vhd" = .ok p.registerFileText ∧
      (∃ renderer, Renderer.standard = .ok renderer ∧
        (renderRegisters Declaration.sample.registers "regfile" 32 renderer).outcome =
          .ok p.registerFileText) ∧
      (generateToFile .sample "regfile.json" "hdl/regfile.vhd"
        ⟨none, some 24, .directory (.text "nowhere") "none.vhd"⟩).1.outcome =
          .error (.plan (.invalidWidth 24)) := by
  have hread := Files.Tree.readText_holding Declaration.sample.toJson.compact
  have hwritable := Files.Tree.isWritable_holding Declaration.sample.toJson.compact
  obtain ⟨p, hplan, hfits⟩ := planDeclaration_sample
  have hgenerate : (generate .sample .sample .standard).outcome = .ok p.registerFileText := by
    obtain ⟨renderer, hrenderer, hrender⟩ := p.exists_standard_render hfits
    rw [outcome_generate_standard .sample rfl hplan hrenderer, hrender]
  obtain ⟨hfile, -, hregisters⟩ := entryPoints_agree .sample .standard
  obtain ⟨hresult, htext⟩ :=
    ((hfile "regfile.json" _ "hdl/regfile.vhd" hread).success hwritable p _).mpr
      ⟨.sample, Declaration.parse_sample, hplan, hgenerate⟩
  obtain ⟨renderer, hrenderer, hsame⟩ := hregisters rfl
  obtain ⟨hfailing, -⟩ := entryPoints_agree .sample
    ⟨none, some 24, .directory (.text "nowhere") "none.vhd"⟩
  refine ⟨p, hread, hwritable, hresult, htext, ⟨renderer, hrenderer, ?_⟩, ?_⟩
  · exact (congrArg Logged.outcome (hsame .sample)).symm.trans hgenerate
  · exact ((hfailing "regfile.json" _ "hdl/regfile.vhd" hread).planning .sample _
      Declaration.parse_sample rfl).1

end RegisterFile

import RegisterFile.Generation
import RegisterFile.Proofs.Files.Writing
import RegisterFile.Proofs.Logged
import RegisterFile.Proofs.Outcome

set_option autoImplicit false

/-!
# What a run from a file to a file changes

Reading, planning, loading a template and rendering change nothing, and only writing fails because a
directory cannot be made or a file cannot be created. So a run that fails in any other way leaves
the file tree as it was, a run that succeeds changes the output and the missing directories on the
way to it, and a run that fails while it writes adds some of these directories at most.

## Main definitions

* `Failure.ofWriting` - whether a run fails while it writes.
* `Logged.EndsBeforeWriting` - a computation does not fail in that way.

## Main results

* `endsBeforeWriting_generateFromFile` - nothing up to rendering fails while writing.
* `outcome_generateToFile` - a run writes what it has generated.
* `generateToFile_cases` - what a run changes.
-/

namespace RegisterFile

/-- Whether a run fails while it writes. -/
def Failure.ofWriting : Failure → Bool
  | .file fault => fault.action.writes
  | _ => false

/-! ## Computations that do not write -/

namespace Logged

variable {α β ε : Type} {P : α → Prop} {Q : β → Prop}

/-- A computation ends in a result with a property, or fails otherwise than while it writes. -/
inductive EndsBeforeWriting (x : Logged α) (P : α → Prop) : Prop where
  | result {a : α} (outcome_eq : x.outcome = .ok a) (holds : P a)
  | failure {failure : Failure} (outcome_eq : x.outcome = .error failure)
      (notWriting : failure.ofWriting = false)

/-- What fails before it writes does not fail while it writes. -/
lemma EndsBeforeWriting.ofWriting {x : Logged α} (hx : x.EndsBeforeWriting P) {failure : Failure}
    (h : x.outcome = .error failure) : failure.ofWriting = false := by
  cases hx with
  | result houtcome _ => cases houtcome.symm.trans h
  | failure houtcome hwriting =>
    obtain rfl := Except.error.inj (houtcome.symm.trans h)
    exact hwriting

/-- A result with the property. -/
lemma endsBeforeWriting_pure {a : α} (h : P a) : (pure a : Logged α).EndsBeforeWriting P :=
  .result (outcome_pure a) h

/-- Telling something. -/
lemma endsBeforeWriting_tell (events : List Event) :
    (tell events).EndsBeforeWriting fun _ => True :=
  .result (outcome_tell events) trivial

/-- A failure that is none of writing. -/
lemma endsBeforeWriting_fail {failure : Failure} (h : failure.ofWriting = false) :
    (fail failure : Logged α).EndsBeforeWriting P :=
  .failure rfl h

/-- Taking over a result or the cause of a failure that is none of writing. -/
lemma endsBeforeWriting_ofExcept {failure : ε → Failure} {x : Except ε α}
    (hok : ∀ a, x = .ok a → P a)
    (herror : ∀ cause, x = .error cause → (failure cause).ofWriting = false) :
    (ofExcept failure x).EndsBeforeWriting P := by
  cases x with
  | ok a => exact .result rfl (hok a rfl)
  | error cause => exact .failure rfl (herror cause rfl)

/-- Two computations one after another. -/
lemma EndsBeforeWriting.bind {x : Logged α} {f : α → Logged β} (hx : x.EndsBeforeWriting P)
    (hf : ∀ a, P a → (f a).EndsBeforeWriting Q) : (x >>= f).EndsBeforeWriting Q := by
  cases hx with
  | failure houtcome hwriting =>
    exact .failure (by simp [houtcome]) hwriting
  | result houtcome ha =>
    cases hf _ ha with
    | failure houtcome' hwriting =>
      exact .failure (by simp [houtcome, houtcome']) hwriting
    | result houtcome' hb =>
      exact .result (by simp [houtcome, houtcome']) hb

end Logged

open Logged

/-! ## The stages of a run -/

/-- A fault of reading a file is one of opening or reading it. -/
lemma Files.Tree.writes_of_readText {t : Files.Tree} {path : String} {fault : Files.Fault}
    (h : t.readText path = .error fault) : fault.action.writes = false := by
  unfold readText at h
  split at h
  · cases h
    rfl
  · split at h
    · cases h
      rfl
    · cases h
      rfl
    · split at h <;> cases h
      rfl

/-- Parsing a declaration does not fail while writing. -/
lemma endsBeforeWriting_parse (text : String) :
    (ofExcept .declaration (Declaration.parse text)).EndsBeforeWriting fun _ => True :=
  endsBeforeWriting_ofExcept (fun _ _ => trivial) fun _ _ => rfl

/-- Reading a declaration does not fail while writing. -/
lemma endsBeforeWriting_readDeclaration (files : Files.Tree) (path : String) :
    (readDeclaration files path).EndsBeforeWriting fun _ => True := by
  have htext : (ofExcept .file (files.readText path)).EndsBeforeWriting fun _ => True :=
    endsBeforeWriting_ofExcept (fun _ _ => trivial) fun _ h => Files.Tree.writes_of_readText h
  exact htext.bind fun text _ => (endsBeforeWriting_parse text).bind fun d _ =>
    (endsBeforeWriting_tell _).bind fun _ _ => endsBeforeWriting_pure trivial

/-- Planning does not fail while writing. -/
lemma endsBeforeWriting_planDeclaration (d : Declaration) (o : Options) :
    (planDeclaration d o).EndsBeforeWriting fun _ => True := by
  have hplan : ∀ d : Declaration, (ofExcept .plan
      (plan d.moduleName d.registers d.registerWidth)).EndsBeforeWriting fun _ => True :=
    fun d => endsBeforeWriting_ofExcept (fun _ _ => trivial) fun _ _ => rfl
  exact (hplan (o.adjust d)).bind fun p _ => (endsBeforeWriting_tell _).bind fun _ _ =>
    endsBeforeWriting_pure trivial

/-- A renderer that never fails while writing. -/
def Renderer.EndsBeforeWriting (renderer : Renderer) : Prop :=
  ∀ p, (renderer.render p).EndsBeforeWriting fun _ => True

/-- Rendering a template does not fail while writing. -/
lemma Renderer.endsBeforeWriting_ofTemplate (name : String) (body : Template.Body)
    (warnings : Plan → List Event) :
    (Renderer.ofTemplate name body warnings).EndsBeforeWriting := by
  intro p
  refine (endsBeforeWriting_tell (warnings p)).bind fun _ _ =>
    endsBeforeWriting_ofExcept (fun _ _ => trivial) fun stop _ => ?_
  cases stop with
  | fault cause => rfl
  | brokenOff cause => rfl

/-- The standard template is a template. -/
lemma Renderer.endsBeforeWriting_standard {renderer : Renderer}
    (h : Renderer.standard = .ok renderer) : renderer.EndsBeforeWriting := by
  unfold Renderer.standard at h
  -- The template itself must stay closed: its text is long.
  generalize parseTemplate Vhdl.templateSource = parsed at h
  cases parsed with
  | error fault => cases h
  | ok body =>
    obtain rfl := Except.ok.inj h
    exact Renderer.endsBeforeWriting_ofTemplate _ body _

/-- Loading a template from a directory does not fail while writing, and neither does rendering
it. -/
lemma endsBeforeWriting_ofDirectory (files : Files.Tree) (directory : Files.DirectoryPath)
    (name : String) :
    (Renderer.ofDirectory files directory name).EndsBeforeWriting Renderer.EndsBeforeWriting := by
  have hsearch : ∀ {α : Type} (x : Except Files.SearchFault α),
      (ofExcept (.brokenOff ∘ .search) x).EndsBeforeWriting fun _ => True :=
    fun x => endsBeforeWriting_ofExcept (fun _ _ => trivial) fun _ _ => rfl
  have hparse : ∀ found,
      (ofExcept .render (parseTemplates found)).EndsBeforeWriting fun _ => True :=
    fun found => endsBeforeWriting_ofExcept (fun _ _ => trivial) fun _ _ => rfl
  unfold Renderer.ofDirectory
  cases directory with
  | bytes raw => exact endsBeforeWriting_fail rfl
  | text path =>
    dsimp only
    refine (hsearch (files.selection? path)).bind fun selection _ => ?_
    refine (endsBeforeWriting_tell _).bind fun _ _ => ?_
    refine (hsearch (files.templateFiles path)).bind fun found _ => ?_
    refine (hparse found).bind fun templates _ => ?_
    cases templates.lookup name with
    | none => exact endsBeforeWriting_fail rfl
    | some body =>
      exact (endsBeforeWriting_tell _).bind fun _ _ =>
        endsBeforeWriting_pure (Renderer.endsBeforeWriting_ofTemplate name body _)

/-- Loading a template does not fail while writing, and neither does rendering it. -/
lemma endsBeforeWriting_load (files : Files.Tree) (source : TemplateSource) :
    (source.load files).EndsBeforeWriting Renderer.EndsBeforeWriting := by
  have hparse : ∀ x : Except RenderFault Renderer,
      (∀ renderer, x = .ok renderer → renderer.EndsBeforeWriting) →
        (ofExcept .render x).EndsBeforeWriting Renderer.EndsBeforeWriting :=
    fun x hx => endsBeforeWriting_ofExcept hx fun _ _ => rfl
  cases source with
  | standard =>
    rw [TemplateSource.load]
    exact hparse Renderer.standard fun _ h => Renderer.endsBeforeWriting_standard h
  | directory path name => exact endsBeforeWriting_ofDirectory files path name

/-- Nothing up to rendering fails while writing. -/
theorem endsBeforeWriting_generateFromFile (files : Files.Tree) (input : String) (o : Options) :
    (generateFromFile files input o).EndsBeforeWriting fun _ => True := by
  refine (endsBeforeWriting_readDeclaration files input).bind fun d _ => ?_
  refine (endsBeforeWriting_planDeclaration d o).bind fun p _ => ?_
  refine (endsBeforeWriting_load files o.template).bind fun renderer hrenderer => ?_
  exact (hrenderer p).bind fun text _ => endsBeforeWriting_pure trivial

/-! ## Runs -/

section

variable {files : Files.Tree} {input output : String} {o : Options}

/-- A run writes the text that it has generated and ends with the plan of the text. -/
theorem outcome_generateToFile (files : Files.Tree) (input output : String) (o : Options) :
    (generateToFile files input output o).1.outcome =
      (generateFromFile files input o).outcome >>= fun generated =>
        (files.writeText output generated.2).1.mapError .file >>= fun _ => .ok generated.1 := by
  rw [generateToFile]
  cases hgenerated : (generateFromFile files input o).outcome with
  | error failure => rfl
  | ok generated =>
    obtain ⟨p, text⟩ := generated
    rw [ok_bind]
    rcases hwrite : files.writeText output text with ⟨_ | _, files'⟩ <;> simp only [hwrite] <;> rfl

/-- A run that fails before it writes leaves the file tree as it is. -/
lemma files_generateToFile_of_error {failure : Failure}
    (h : (generateFromFile files input o).outcome = .error failure) :
    (generateToFile files input output o).2 = files := by
  rw [generateToFile]
  simp only [h]

/-- A run that gets to writing leaves what writing leaves. -/
lemma files_generateToFile_of_ok {p : Plan} {text : String}
    (h : (generateFromFile files input o).outcome = .ok (p, text)) :
    (generateToFile files input output o).2 = (files.writeText output text).2 := by
  rw [generateToFile]
  rcases hwrite : files.writeText output text with ⟨_ | _, files'⟩ <;> simp only [h, hwrite]

/-- A run fails before it writes and changes nothing, or it writes what it has generated. -/
lemma generateToFile_stages (files : Files.Tree) (input output : String) (o : Options) :
    (∃ failure, (generateFromFile files input o).outcome = .error failure ∧
        failure.ofWriting = false ∧
        (generateToFile files input output o).1.outcome = .error failure ∧
        (generateToFile files input output o).2 = files) ∨
      ∃ p text, (generateFromFile files input o).outcome = .ok (p, text) ∧
        (generateToFile files input output o).1.outcome =
          ((files.writeText output text).1.mapError .file >>= fun _ => .ok p) ∧
        (generateToFile files input output o).2 = (files.writeText output text).2 := by
  rw [outcome_generateToFile]
  cases endsBeforeWriting_generateFromFile files input o with
  | failure hgenerated hstage =>
    refine .inl ⟨_, hgenerated, hstage, ?_, files_generateToFile_of_error hgenerated⟩
    rw [hgenerated]
    rfl
  | @result generated hgenerated _ =>
    obtain ⟨p, text⟩ := generated
    exact .inr ⟨p, text, hgenerated, by rw [hgenerated, ok_bind],
      files_generateToFile_of_ok hgenerated⟩

end

/-- **What a run changes.** If it fails while it reads, plans, loads the template or renders,
nothing. If it succeeds, the rendered text is in the output, directories lead to it, and nothing
else is different but directories that were missing. If it fails while it writes, nothing is
different but some of these directories. -/
theorem generateToFile_cases (files : Files.Tree) (input output : String) (o : Options) :
    let generated := (generateFromFile files input o).outcome
    let result := (generateToFile files input output o).1.outcome
    let files' := (generateToFile files input output o).2
    (∃ failure, generated = .error failure ∧ result = .error failure ∧
        failure.ofWriting = false ∧ files' = files) ∨
      (∃ p text, generated = .ok (p, text) ∧ result = .ok p ∧
        files.Written files' output text) ∨
      ∃ p text failure, generated = .ok (p, text) ∧ result = .error failure ∧
        failure.ofWriting = true ∧ files.AddsDirectories files' (files.LeadsThrough output) := by
  dsimp only
  rcases generateToFile_stages files input output o with
    ⟨failure, hgenerated, hstage, hresult, hfiles⟩ | ⟨p, text, hgenerated, hresult, hfiles⟩
  · exact .inl ⟨failure, hgenerated, hresult, hstage, hfiles⟩
  · rw [hresult, hfiles]
    rcases files.writeText_cases output text with
      ⟨hwrite, hwritten⟩ | ⟨fault, hwrite, hwrites, hadds⟩
    · rw [hwrite]
      exact .inr (.inl ⟨p, text, hgenerated, rfl, hwritten⟩)
    · rw [hwrite]
      exact .inr (.inr ⟨p, text, .file fault, hgenerated, rfl, hwrites, hadds⟩)

end RegisterFile

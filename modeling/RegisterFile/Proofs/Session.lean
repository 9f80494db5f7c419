import RegisterFile.Proofs.FileGeneration
import RegisterFile.Proofs.Files.WellFormed
import RegisterFile.Session

set_option autoImplicit false

/-!
# What a session keeps

A step that fails leaves a session as it is, unless it fails while it writes. Then the options and
the declaration are as they were, and the file tree has at most some new directories on the way to
the output.

Over a whole session a file changes only if it is the output of a step, and a well-formed file tree
stays well-formed, whatever the steps are and whichever of them fail.

## Main definitions

* `Session.Step.WritesAt` - a step writes the file at a location.

## Main results

* `Session.take_of_error` - what a step that fails leaves.
* `Session.changesAt_run` - what several steps change in the file tree.
* `Session.readText_run` - a file that is no output is read alike after several steps.
* `Session.wellFormed_run` - several steps keep a file tree well-formed.
-/

namespace RegisterFile.Session

open Logged

variable {s : Session}

/-! ## Steps that fail -/

/-- Reading that fails before it writes leaves a session as it is. -/
lemma adopt_of_error {reading : Logged Declaration} {P : Declaration → Prop}
    (hreading : reading.EndsBeforeWriting P) {failure : Failure}
    (h : (s.adopt reading).1.outcome.map (fun _ => ()) = .error failure) :
    failure.ofWriting = false ∧ (s.adopt reading).2 = s := by
  unfold adopt at h ⊢
  cases houtcome : reading.outcome with
  | ok d =>
    simp only [houtcome] at h
    cases h
  | error cause =>
    simp only [houtcome] at h
    obtain rfl := Except.error.inj h
    exact ⟨hreading.ofWriting houtcome, rfl⟩

/-- A run from a file to a file that fails before it writes leaves a session as it is. One that
fails while it writes adds directories at most. -/
lemma generateToFile_of_error {input output : String} {failure : Failure}
    (h : (s.generateToFile input output).1.outcome.map (fun _ => ()) = .error failure) :
    (failure.ofWriting = false ∧ (s.generateToFile input output).2 = s) ∨
      failure.ofWriting = true ∧ ∃ files',
        (s.generateToFile input output).2 = { s with files := files' } ∧
          s.files.AddsDirectories files' (s.files.LeadsThrough output) := by
  rw [Session.generateToFile] at h ⊢
  dsimp only at h ⊢
  rcases generateToFile_stages s.files input output s.options with
    ⟨cause, -, hstage, hresult, hfiles⟩ | ⟨p, text, -, hresult, hfiles⟩
  · rw [hresult] at h
    obtain rfl := Except.error.inj h
    exact .inl ⟨hstage, by rw [hfiles]⟩
  · rw [hresult] at h
    rcases s.files.writeText_cases output text with ⟨hwrite, -⟩ | ⟨fault, hwrite, hwrites, hadds⟩
    · rw [hwrite] at h
      cases h
    · rw [hwrite] at h
      obtain rfl := Except.error.inj h
      exact .inr ⟨hwrites, _, rfl, hfiles ▸ hadds⟩

/-- **What a step that fails leaves.** The session is as it was, unless the step fails while it
writes. In this case nothing is different but some directories on the way to the output. -/
theorem take_of_error {step : Step} {failure : Failure} (h : (s.take step).1 = .error failure) :
    (failure.ofWriting = false ∧ (s.take step).2 = s) ∨
      failure.ofWriting = true ∧ ∃ input output files', step = .generateToFile input output ∧
        (s.take step).2 = { s with files := files' } ∧
          s.files.AddsDirectories files' (s.files.LeadsThrough output) := by
  cases step with
  | setModuleName name => cases h
  | setRegisterWidth bits => cases h
  | setTemplate source => cases h
  | parse text => exact .inl (adopt_of_error (endsBeforeWriting_parse text) h)
  | load path => exact .inl (adopt_of_error (endsBeforeWriting_readDeclaration s.files path) h)
  | generateToFile input output =>
    refine (generateToFile_of_error h).imp_right fun ⟨hwriting, files', hsession, hadds⟩ => ?_
    exact ⟨hwriting, input, output, files', rfl, hsession, hadds⟩

/-! ## What steps change -/

/-- A step writes the file at a location: it is the output of a run from a file to a file. -/
def Step.WritesAt (step : Step) (files : Files.Tree) (location : Files.Location) : Prop :=
  ∃ input output, step = .generateToFile input output ∧ location = files.target output

/-- Reading changes no file. -/
lemma files_adopt (s : Session) (reading : Logged Declaration) :
    (s.adopt reading).2.files = s.files := by
  unfold adopt
  cases reading.outcome <;> rfl

/-- A step leaves the file tree as it is or writes a text into its output. -/
lemma files_take (s : Session) (step : Step) :
    (s.take step).2.files = s.files ∨ ∃ input output text, step = .generateToFile input output ∧
      (s.take step).2.files = (s.files.writeText output text).2 := by
  cases step with
  | setModuleName name => exact .inl rfl
  | setRegisterWidth bits => exact .inl rfl
  | setTemplate source => exact .inl rfl
  | parse text => exact .inl (s.files_adopt _)
  | load path => exact .inl (s.files_adopt _)
  | generateToFile input output =>
    rcases generateToFile_stages s.files input output s.options with
      ⟨failure, -, -, -, hfiles⟩ | ⟨p, text, -, -, hfiles⟩
    · exact .inl hfiles
    · exact .inr ⟨input, output, text, rfl, hfiles⟩

/-- A step changes its output and adds directories at most. -/
lemma changesAt_take (s : Session) (step : Step) :
    s.files.ChangesAt (s.take step).2.files (step.WritesAt s.files) := by
  rcases s.files_take step with hfiles | ⟨input, output, text, rfl, hfiles⟩
  · rw [hfiles]
    exact .refl s.files _
  · rw [hfiles]
    rcases s.files.writeText_cases output text with ⟨-, hwritten⟩ | ⟨fault, -, -, hadds⟩
    · exact hwritten.changesAt.mono fun l hl => ⟨input, output, rfl, hl⟩
    · exact hadds.changesAt _

/-- **What several steps change in the file tree.** No directory is lost, and nothing is different
but the outputs of the steps and directories where nothing was. -/
theorem changesAt_run (s : Session) (steps : List Step) :
    s.files.ChangesAt (s.run steps).files fun l => ∃ step ∈ steps, step.WritesAt s.files l := by
  induction steps generalizing s with
  | nil => exact .refl s.files _
  | cons step steps ih =>
    have hfirst := s.changesAt_take step
    refine (hfirst.mono fun l hl => ⟨step, List.mem_cons_self, hl⟩).trans ((ih _).mono ?_)
    -- A path spells the same location after the first step.
    rintro _ ⟨later, hlater, input, output, rfl, rfl⟩
    exact ⟨_, List.mem_cons_of_mem step hlater, input, output, rfl,
      Files.Tree.target_congr hfirst.keeps.workingDirectory output⟩

/-- **A file that is no output is read alike** after several steps. -/
theorem readText_run {path content : String} (hread : s.files.readText path = .ok content)
    {steps : List Step} (hpath : ∀ input output, .generateToFile input output ∈ steps →
      s.files.target path ≠ s.files.target output) :
    (s.run steps).files.readText path = .ok content := by
  refine (s.changesAt_run steps).readText hread ?_
  rintro ⟨_, hstep, input, output, rfl, htarget⟩
  exact hpath input output hstep htarget

/-- A step keeps a file tree well-formed. -/
lemma wellFormed_take (h : s.files.WellFormed) (step : Step) :
    (s.take step).2.files.WellFormed := by
  rcases s.files_take step with hfiles | ⟨input, output, text, -, hfiles⟩
  · rwa [hfiles]
  · rw [hfiles]
    exact h.writeText output text

/-- **Several steps keep a file tree well-formed.** -/
theorem wellFormed_run (h : s.files.WellFormed) (steps : List Step) :
    (s.run steps).files.WellFormed := by
  induction steps generalizing s with
  | nil => exact h
  | cons step steps ih => exact ih (wellFormed_take h step)

end RegisterFile.Session

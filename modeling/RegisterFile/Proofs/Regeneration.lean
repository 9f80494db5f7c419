import RegisterFile.Proofs.Files.SearchAfterWriting
import RegisterFile.Proofs.TemplateDirectory

set_option autoImplicit false

/-!
# Running again

A run from a file to a file that succeeds can be repeated: it reads the same declaration, finds the
same templates, tells and returns the same, and leaves the file tree as it is. The output must not
take part in the run. It is neither the file that the declaration is read from nor one that the
template directory selects.

## Main results

* `load_writeText` - a template is loaded alike after a text has been written elsewhere.
* `generateToFile_again` - a run that succeeded does the same again.
-/

namespace RegisterFile

open Logged

/-! ## Loading again -/

section

variable {files files' : Files.Tree} {path name : String}

/-- A template directory offers the same where its path asks for the same and leads to the same
files. -/
lemma Renderer.ofDirectory_congr (hsearch : files'.search path = files.search path)
    (hfound : files'.templateFiles path = files.templateFiles path) :
    ofDirectory files' (.text path) name = ofDirectory files (.text path) name := by
  rw [ofDirectory, ofDirectory, Files.Tree.selection?, Files.Tree.selection?, hsearch, hfound]

/-- A template comes from a directory that holds files. -/
lemma Renderer.exists_found_of_ofDirectory {renderer : Renderer}
    (h : (ofDirectory files (.text path) name).outcome = .ok renderer) :
    ∃ found, files.templateFiles path = .ok found ∧ found ≠ [] := by
  simp only [ofDirectory, outcome_bind, outcome_ofExcept, outcome_tell, bind_eq_ok_iff,
    mapError_eq_ok_iff] at h
  obtain ⟨_, -, _, -, found, hfound, templates, htemplates, h⟩ := h
  refine ⟨found, hfound, ?_⟩
  rintro rfl
  have hnone : parseTemplates [] = .ok [] := by
    rw [parseTemplates, templateSources, unreadablePaths]
    simp
  obtain rfl := Except.ok.inj (hnone.symm.trans htemplates)
  cases h

/-- **A template is loaded alike** after a text has been written elsewhere. -/
theorem load_writeText (hfiles : files.WellFormed) {source : TemplateSource} {renderer : Renderer}
    (hload : (source.load files).outcome = .ok renderer) {output text : String}
    (hwrite : (files.writeText output text).1 = .ok ())
    (htemplate : ∀ path name, source = .directory (.text path) name →
      ¬ files.Selects path (files.target output)) :
    source.load (files.writeText output text).2 = source.load files := by
  cases source with
  | standard => rfl
  | directory directory name =>
    cases directory with
    | bytes raw => cases hload
    | text path =>
      rw [TemplateSource.load] at hload
      obtain ⟨found, hfound, hne⟩ := Renderer.exists_found_of_ofDirectory hload
      obtain ⟨hsearch, hsame⟩ := Files.Tree.templateFiles_writeText hfiles hfound hne hwrite
        (htemplate path name rfl)
      exact Renderer.ofDirectory_congr hsearch (hsame.trans hfound.symm)

end

/-! ## Running again -/

section

variable {files : Files.Tree} {input output : String} {o : Options}

/-- What is generated from a file comes from a declaration in it and a template. -/
lemma exists_stages_of_generateFromFile {p : Plan} {text : String}
    (h : (generateFromFile files input o).outcome = .ok (p, text)) :
    ∃ content renderer, files.readText input = .ok content ∧
      (o.template.load files).outcome = .ok renderer := by
  simp only [generateFromFile, outcome_bind, outcome_readDeclaration, outcome_pure, bind_eq_ok_iff,
    mapError_eq_ok_iff] at h
  obtain ⟨_, ⟨content, hread, -⟩, _, -, renderer, hload, -⟩ := h
  exact ⟨content, renderer, hread, hload⟩

/-- **A run that succeeded does the same again.** In a well-formed file tree, let the output be
neither the file that the declaration is read from nor one that the template directory selects. Then
the same run in the tree that is left returns and tells the same, and leaves this tree exactly as it
is.

**Proof sketch.** The second run reads the same text (`Files.Tree.readText_writeText`) and loads the
same template (`load_writeText`), so that it generates the same text. To write it again changes
nothing (`Files.Tree.writeText_again`). -/
theorem generateToFile_again (hfiles : files.WellFormed) {p : Plan}
    (hrun : (generateToFile files input output o).1.outcome = .ok p)
    (hinput : files.target output ≠ files.target input)
    (htemplate : ∀ path name, o.template = .directory (.text path) name →
      ¬ files.Selects path (files.target output)) :
    generateToFile (generateToFile files input output o).2 input output o =
      generateToFile files input output o := by
  obtain ⟨text, htext, hwrite, hfiles'⟩ := exists_written_of_generateToFile hrun
  obtain ⟨content, renderer, hread, hload⟩ := exists_stages_of_generateFromFile htext
  have hgenerated : generateFromFile (files.writeText output text).2 input o =
      generateFromFile files input o := by
    rw [generateFromFile, generateFromFile, readDeclaration, readDeclaration, hread,
      Files.Tree.readText_writeText hwrite hread hinput,
      load_writeText hfiles hload hwrite htemplate]
  have hagain := Files.Tree.writeText_again hwrite
  rw [hfiles', generateToFile, generateToFile, hgenerated]
  rcases hwritten : files.writeText output text with ⟨_ | _, files'⟩
  · rw [hwritten] at hwrite
    cases hwrite
  · rw [hwritten] at hagain
    simp only [htext, hagain, hwritten]

end

/-! ## An example -/

namespace Files.Tree

/-- A file tree with the sample declaration and a template. -/
def withTemplate : Tree where
  workingDirectory := []
  entries := [
    (["regfile.json"], .file Declaration.sample.toJson.compact.toUTF8),
    (["hdl"], .directory), (["hdl", "note.txt"], .file "text".toUTF8)]

/-- Everything in it lies in directories. -/
lemma wellFormed_withTemplate : withTemplate.WellFormed where
  workingDirectory := rfl
  names l e h := by
    simp only [withTemplate, List.mem_cons, Prod.mk.injEq, List.not_mem_nil, or_false] at h
    rcases h with ⟨rfl, -⟩ | ⟨rfl, -⟩ | ⟨rfl, -⟩ <;> decide
  above front name back e h := by
    cases front with
    | nil => rfl
    | cons first rest =>
      obtain ⟨⟨rfl, rfl, -⟩, -⟩ : (first = "hdl" ∧ rest = [] ∧ _) ∧ _ := by
        simpa [withTemplate, List.append_eq_singleton_iff] using h
      rfl

/-- The template is the only file in its directory. -/
lemma holdsOnly_withTemplate : withTemplate.HoldsOnly ["hdl"] ["note.txt"] "text".toUTF8 where
  isDirectory := rfl
  names_ne_nil := List.cons_ne_nil _ _
  mem_entries := by simp [withTemplate]
  eq_of_mem others content' _ hmem := by simpa [withTemplate] using hmem

end Files.Tree

/-- The options that use this template. -/
def Options.withTemplate : Options := ⟨none, none, .directory (.text "hdl") "note.txt"⟩

/-- A run with the template writes into a new directory, and the same run does so again. -/
theorem generateToFile_again_withTemplate :
    (∃ p, (generateToFile .withTemplate "regfile.json" "out/regfile.txt" .withTemplate).1.outcome =
      .ok p) ∧
    (generateToFile .withTemplate "regfile.json" "out/regfile.txt" .withTemplate).2.readText
      "out/regfile.txt" = .ok "text" ∧
    generateToFile
        (generateToFile .withTemplate "regfile.json" "out/regfile.txt" .withTemplate).2
        "regfile.json" "out/regfile.txt" .withTemplate =
      generateToFile .withTemplate "regfile.json" "out/regfile.txt" .withTemplate := by
  have hread : Files.Tree.withTemplate.readText "regfile.json" =
      .ok Declaration.sample.toJson.compact := by
    have hlocate : Files.Tree.withTemplate.locate "regfile.json" = .ok ["regfile.json"] := rfl
    have hentry : Files.Tree.withTemplate.entry? ["regfile.json"] =
        some (.file Declaration.sample.toJson.compact.toUTF8) := rfl
    simp only [Files.Tree.readText, hlocate, hentry, Files.Tree.fromUTF8?_toUTF8]
  have hwritable : Files.Tree.withTemplate.IsWritable "out/regfile.txt" := ⟨"", rfl⟩
  have hload : (Renderer.ofDirectory .withTemplate (.text "hdl")
      ("/".intercalate ["note.txt"])).outcome = .ok
        (.ofTemplate "note.txt" (.text "text" .done) fun _ => []) :=
    Renderer.outcome_ofDirectory (by decide) (fun _ hn => absurd hn List.not_mem_nil) rfl
      Files.Tree.holdsOnly_withTemplate (by decide) (Files.Tree.fromUTF8?_toUTF8 "text") rfl
  replace hload : (Options.withTemplate.template.load .withTemplate).outcome = .ok _ := hload
  obtain ⟨p, hplan, -⟩ := planDeclaration_sample
  replace hplan : (planDeclaration .sample .withTemplate).outcome = .ok p := hplan
  have hgenerate : (generate .withTemplate .sample .withTemplate).outcome = .ok "text" := by
    rw [outcome_generate, hplan, ok_bind, hload]
    rfl
  obtain ⟨hresult, htext⟩ := generateToFile_of_ok
    ((generateFromFile_eq_ok_iff hread).mpr ⟨_, Declaration.parse_sample, hplan, hgenerate⟩)
    hwritable
  refine ⟨⟨p, hresult⟩, htext, generateToFile_again Files.Tree.wellFormed_withTemplate hresult
    (by decide +kernel) ?_⟩
  rintro path name hsource hselects
  obtain ⟨rfl, -⟩ : "hdl" = path ∧ "note.txt" = name := by
    simpa [Options.withTemplate] using hsource
  have hplain : Files.Tree.withTemplate.plainDirectory? "hdl" = some ["hdl"] := rfl
  have htarget : Files.Tree.withTemplate.target "out/regfile.txt" = ["out", "regfile.txt"] := by
    decide +kernel
  cases hselects with
  | plain hdirectory _ hlocation =>
    obtain rfl := Option.some.inj (hplain.symm.trans hdirectory)
    rw [htarget, List.cons_append, List.cons.injEq] at hlocation
    exact absurd hlocation.1 (by decide)
  | pattern hpattern => cases hplain.symm.trans hpattern

end RegisterFile

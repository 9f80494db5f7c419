import RegisterFile.Proofs.EntryPoints
import RegisterFile.Proofs.Files.Searching
import RegisterFile.Proofs.Template.Naming

set_option autoImplicit false

/-!
# Templates from directories

A directory that holds a single template offers it under the names that lead to its file. What it
renders does not depend on this name, be it that of a VHDL file, of a web page or of a file further
below, unless it ends with a fault that tells the name. The standard template has no faults, so a
copy of it in a directory takes its place.

## Main results

* `Renderer.outcome_ofDirectory` - the template of a directory that holds no other file.
* `Renderer.standard_outcome_congr` - the standard template under different names.
* `directory_agrees` - a copy of the standard template does what the standard template does.
-/

namespace RegisterFile

open Template (Body)

/-! ## Loading -/

/-- A character between slashes is one of the names there. -/
lemma mem_toList_intercalate {names : List String} {c : Char}
    (h : c ∈ ("/".intercalate names).toList) : c = '/' ∨ ∃ n ∈ names, c ∈ n.toList := by
  induction names with
  | nil => cases h
  | cons first rest ih =>
    by_cases hrest : rest = []
    · subst hrest
      rw [String.intercalate_singleton] at h
      exact .inr ⟨first, List.mem_cons_self, h⟩
    · rw [String.intercalate_cons_of_ne_nil hrest, String.toList_append, String.toList_append,
        List.mem_append, List.mem_append] at h
      rcases h with (h | h) | h
      · exact .inr ⟨first, List.mem_cons_self, h⟩
      · exact .inl (List.mem_singleton.mp h)
      · exact (ih h).imp_right fun ⟨n, hn, hc⟩ => ⟨n, List.mem_cons_of_mem first hn, hc⟩

/-- Names without backslashes name a template as they lead to its file. -/
lemma templateName_eq {f : Files.FoundFile} (h : ∀ n ∈ f.names, '\\' ∉ n.toList) :
    templateName f = "/".intercalate f.names := by
  have hsame : ∀ c ∈ ("/".intercalate f.names).toList, (if c = '\\' then '/' else c) = c := by
    intro c hc
    rcases mem_toList_intercalate hc with rfl | ⟨n, hn, hc⟩
    · rfl
    · exact if_neg fun hback : c = '\\' => h n hn (hback ▸ hc)
  apply String.toList_injective
  rw [templateName, String.toList_map, List.map_congr_left hsame]
  exact List.map_id _

/-- The templates in files that are all the same. -/
lemma parseTemplates_replicate {f : Files.FoundFile} {source : String} {body : Body}
    (htext : String.fromUTF8? f.content = some source) (hbody : parseTemplate source = .ok body)
    (count : Nat) : parseTemplates (List.replicate count f) =
      .ok (List.replicate count (templateName f, body)) := by
  have hsources : templateSources (List.replicate count f) =
      List.replicate count (templateName f, source) := by
    have hperm := List.mergeSort_perm (List.replicate count (templateName f, source))
      fun a b => a.1 ≤ b.1
    rw [templateSources, List.filterMap_replicate_of_some (by rw [htext]; rfl)]
    exact List.perm_replicate.mp hperm
  have hunreadable : unreadablePaths (List.replicate count f) = [] := by
    rw [unreadablePaths, List.filter_replicate_of_neg (by simp [htext]), List.map_nil,
      List.mergeSort_nil]
  rw [parseTemplates, hsources, mapM_replicate (by simp only [hbody]; rfl),
    ok_bind, hunreadable]
  rfl

/-- **The template of a directory that holds no other file** is found under the names that lead to
it. -/
theorem Renderer.outcome_ofDirectory {files : Files.Tree} {path : String}
    {location : Files.Location} {names : List String} {content : ByteArray} {source : String}
    {body : Body} (hpath : Files.IsLiteral path)
    (hstart : ∀ n ∈ files.start path, Files.IsLiteral n)
    (hlocate : files.locate path = .ok location) (hholds : files.HoldsOnly location names content)
    (hnames : ∀ n ∈ names, '\\' ∉ n.toList) (htext : String.fromUTF8? content = some source)
    (hbody : parseTemplate source = .ok body) :
    (ofDirectory files (.text path) ("/".intercalate names)).outcome =
      .ok (ofTemplate ("/".intercalate names) body fun _ => []) := by
  obtain ⟨selection, hselection⟩ := files.exists_selection? hpath hstart
  obtain ⟨count, hfound⟩ := hholds.filesBelow
  have hfiles := files.templateFiles_of_isLiteral hpath hstart hlocate hholds.isDirectory
  have htemplates : parseTemplates
      (List.replicate (count + 1) ⟨names, location ++ names, content⟩) =
        .ok (List.replicate (count + 1) ("/".intercalate names, body)) := by
    rw [parseTemplates_replicate htext hbody, templateName_eq hnames]
  have hlookup : (List.replicate (count + 1) ("/".intercalate names, body)).lookup
      ("/".intercalate names) = some body := by
    rw [List.replicate_succ, List.lookup_cons_self]
  simp [ofDirectory, hselection, hfiles, hfound, htemplates, hlookup]

/-! ## Rendering -/

/-- Under every name, the standard template has the same text or breaks off in the same way. -/
theorem Renderer.standard_outcome_congr (name : String) (warnings : Plan → List Event) (p : Plan) :
    ((ofTemplate name (Vhdl.partsBody Vhdl.template []) warnings).render p).outcome =
      ((ofTemplate Vhdl.templateName (Vhdl.partsBody Vhdl.template [])
        Plan.warnings).render p).outcome := by
  have hends : ∀ template, EndsWithin Template.tooWide (∀ part ∈ Vhdl.template, part.Fits p)
      ((Vhdl.partsBody Vhdl.template []).render template p.scope) :=
    fun template => Vhdl.endsWithin_partsBody Vhdl.template []
  have hsame : (Vhdl.partsBody Vhdl.template []).render name p.scope =
      (Vhdl.partsBody Vhdl.template []).render Vhdl.templateName p.scope :=
    (Body.render_agree name Vhdl.templateName p.scope _).eq_of_endsWithin (hends name)
      (hends Vhdl.templateName)
  rw [outcome_ofTemplate, outcome_ofTemplate, hsame]
  -- Only faults tell the name, and there are none.
  rcases hends Vhdl.templateName with ⟨-, text, htext⟩ | ⟨-, field, -, hfield⟩
  · rw [htext]
    rfl
  · rw [hfield]
    rfl

/-- **A copy of the standard template takes its place.** A directory whose only file is such a copy
offers a template under the names that lead to the file, if the path of the directory, from the root
on, has none of the signs of patterns. For every plan this template has the text of the standard
one, or breaks off as the standard one does, and so it is with all declarations and with all names
and widths that options give. -/
theorem directory_agrees {files : Files.Tree} {path : String} {location : Files.Location}
    {names : List String} (hpath : Files.IsLiteral path)
    (hstart : ∀ n ∈ files.start path, Files.IsLiteral n)
    (hlocate : files.locate path = .ok location)
    (hholds : files.HoldsOnly location names Vhdl.templateSource.toUTF8)
    (hnames : ∀ n ∈ names, '\\' ∉ n.toList) :
    ∃ standard copy,
      (TemplateSource.standard.load files).outcome = .ok standard ∧
      ((TemplateSource.directory (.text path) ("/".intercalate names)).load files).outcome =
        .ok copy ∧
      (∀ p : Plan, (copy.render p).outcome = (standard.render p).outcome) ∧
      ∀ (d : Declaration) (moduleName : Option String) (registerWidth : Option UInt32),
        (generate files d ⟨moduleName, registerWidth,
            .directory (.text path) ("/".intercalate names)⟩).outcome =
          (generate files d ⟨moduleName, registerWidth, .standard⟩).outcome := by
  have hbody : parseTemplate Vhdl.templateSource = .ok (Vhdl.partsBody Vhdl.template []) := by
    rw [parseTemplate, Vhdl.parse_templateSource]
  have hstandard : (TemplateSource.standard.load files).outcome = .ok (.ofTemplate
      Vhdl.templateName (Vhdl.partsBody Vhdl.template []) Plan.warnings) := by
    rw [TemplateSource.load, Renderer.standard_eq]
    rfl
  have hcopy : ((TemplateSource.directory (.text path) ("/".intercalate names)).load
      files).outcome = .ok (.ofTemplate ("/".intercalate names) (Vhdl.partsBody Vhdl.template [])
        fun _ => []) :=
    Renderer.outcome_ofDirectory hpath hstart hlocate hholds hnames
      (Files.Tree.fromUTF8?_toUTF8 Vhdl.templateSource) hbody
  have hrender := Renderer.standard_outcome_congr ("/".intercalate names) fun _ => []
  refine ⟨_, _, hstandard, hcopy, hrender, fun d moduleName registerWidth => ?_⟩
  have hplan : (planDeclaration d ⟨moduleName, registerWidth,
        .directory (.text path) ("/".intercalate names)⟩).outcome =
      (planDeclaration d ⟨moduleName, registerWidth, .standard⟩).outcome := rfl
  rw [outcome_generate, outcome_generate, hstandard, hcopy, hplan]
  exact bind_congr hrender

/-- A file tree with a single file, which is named like a web page. -/
def Files.Tree.withPage (content : ByteArray) : Files.Tree where
  workingDirectory := ["work"]
  entries := [
    (["work"], .directory), (["work", "hdl"], .directory), (["work", "hdl", "axi"], .directory),
    (["work", "hdl", "axi", "page.html"], .file content)]

/-- The file is the only one of its directory and of the directory above. -/
lemma Files.Tree.holdsOnly_withPage (content : ByteArray) :
    (withPage content).HoldsOnly ["work", "hdl"] ["axi", "page.html"] content where
  isDirectory := rfl
  names_ne_nil := List.cons_ne_nil _ _
  mem_entries := by simp [withPage]
  eq_of_mem others content' _ hmem := by simpa [withPage] using hmem

/-- A copy of the standard template that is named like a web page renders a module name with signs
that mean something in web pages as the standard template does. -/
theorem directory_agrees_page :
    ∃ p copy, plan "<a&b>" Declaration.sample.registers 32 = .ok p ∧
      ((TemplateSource.directory (.text "hdl") "axi/page.html").load
        (.withPage Vhdl.templateSource.toUTF8)).outcome = .ok copy ∧
      (copy.render p).outcome = .ok p.registerFileText := by
  obtain ⟨p, hplan, hregisters, hbits⟩ : ∃ p,
      plan "<a&b>" Declaration.sample.registers 32 = .ok p ∧
        p.registers = Declaration.sample.registers ∧ p.width.bits = 32 := ⟨_, rfl, rfl, rfl⟩
  have hfits : Vhdl.Fits p := (Vhdl.fits_iff p).mpr (by rw [hregisters, hbits]; decide)
  obtain ⟨renderer, hrenderer, hrender⟩ := p.exists_standard_render hfits
  have hpath : Files.IsLiteral "hdl" := by decide
  have hstart : ∀ content, ∀ n ∈ (Files.Tree.withPage content).start "hdl", Files.IsLiteral n := by
    intro content n hn
    obtain rfl : n = "work" := List.mem_singleton.mp hn
    decide
  have hlocate : ∀ content, (Files.Tree.withPage content).locate "hdl" = .ok ["work", "hdl"] :=
    fun _ => rfl
  obtain ⟨standard, copy, hstandard, hcopy, hsame, -⟩ := directory_agrees hpath (hstart _)
    (hlocate _) (Files.Tree.holdsOnly_withPage Vhdl.templateSource.toUTF8) (by decide +kernel)
  obtain rfl : renderer = standard := by
    rw [TemplateSource.load, hrenderer] at hstandard
    exact Except.ok.inj hstandard
  exact ⟨p, copy, hplan, hcopy, (hsame p).trans hrender⟩

end RegisterFile

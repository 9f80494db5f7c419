import RegisterFile.Proofs.Files.PlainDirectories
import RegisterFile.Proofs.Files.WellFormed

set_option autoImplicit false

/-!
# Searching after a file has been written

A template directory that holds files holds the same ones after a text has been written elsewhere.
This is not obvious where its path is a pattern: as long as the path before the first star leads
nowhere, the pattern is taken as it is written, and directories that are made could change that. But
then nothing was found before, since in a tree where every file lies in directories each file that
is found lies below the place that the path leads to.

## Main definitions

* `Files.Tree.Selects` - a template directory selects what stands at a location.

## Main results

* `Files.Tree.WellFormed.isDirectory_of_found` - what is found is reached through directories.
* `Files.Tree.templateFiles_writeText` - a template directory holds the same files after a text has
  been written elsewhere.
-/

namespace RegisterFile.Files

/-! ## Names that lead anywhere -/

/-- The names that lead anywhere are those of a path, the name `.` apart. -/
lemma leadingNames_eq (path : String) :
    leadingNames path = (names path).filter (· ≠ ".") := by
  have hslash : (if endsInSlash path then ["."] else []).filter (· ≠ ".") = [] := by
    split_ifs <;> rfl
  rw [names, List.filter_append, hslash, List.append_nil, leadingNames]

namespace Tree

variable {t t' : Tree} {path : String}

/-! ## What is found in well-formed trees -/

/-- **What is found is reached through directories.** The names that lead to the place where a
search starts and those from there to a file lead through directories one by one. -/
theorem WellFormed.isDirectory_of_found (h : t.WellFormed) {base : List String} {b : Location}
    (hbase : t.walk [] base = .ok b) {f : FoundFile} (hf : f ∈ t.filesBelow b)
    {front back : List String} {name : String}
    (hfront : base ++ f.names = front ++ name :: back) : t.isDirectory (resolve [] front) := by
  obtain ⟨hentry, -, hlocation⟩ := mem_filesBelow_iff.mp hf
  obtain ⟨hb, hway⟩ := walk_eq_ok hbase
  have hbelow : ∀ between, f.names = between ++ name :: back →
      t.isDirectory (resolve [] (base ++ between)) := by
    intro between hbetween
    rw [hlocation, hbetween, ← List.append_assoc] at hentry
    have hnames : ∀ n ∈ between, n ≠ "." ∧ n ≠ ".." := fun n hn =>
      h.names _ _ hentry n (by simp [hn])
    rw [resolve_append, ← hb, resolve_eq_append hnames]
    exact h.above _ _ _ _ hentry
  rcases List.append_eq_append_iff.mp hfront with ⟨between, rfl, hbetween⟩ | ⟨more, hmore, hnames⟩
  · exact hbelow between hbetween
  · cases more with
    | nil =>
      rw [List.append_nil] at hmore
      rw [← hmore, ← List.append_nil base]
      exact hbelow [] hnames.symm
    | cons next more => exact hway front next more hmore

/-! ## Searches -/

/-- The names of the files start where the path before the first star is spelled, if it leads
nowhere. -/
lemma directory_search_of_none
    (h : ((t.locate (pathBeforeStar path)).toOption.filter fun l => (t.entry? l).isSome) = none) :
    (t.search path).directory =
      t.start (pathBeforeStar path) ++ leadingNames (pathBeforeStar path) := by
  unfold search start
  simp only [h]
  generalize pathBeforeStar path = before
  cases isAbsolute before <;> simp [Search.ofNames]

/-- A file that is found below the place that a search asks for is found through directories that
the path before the first star spells. -/
lemma WellFormed.isDirectory_beforeStar (h : t.WellFormed)
    (hnone : ((t.locate (pathBeforeStar path)).toOption.filter fun l => (t.entry? l).isSome) = none)
    {b : Location} (hbase : t.walk [] (t.search path).base = .ok b) {f : FoundFile}
    (hf : f ∈ t.filesBelow b) {found : List String}
    (hfound : namesBelow? (t.search path).directory ((t.search path).base ++ f.names) = some found)
    {front : List String} (hfront : front <+: Files.names (pathBeforeStar path)) :
    t.isDirectory (resolve (t.start (pathBeforeStar path)) front) := by
  obtain ⟨hne, hsplit⟩ := namesBelow?_eq_some_iff.mp hfound
  obtain ⟨back, hback⟩ := hfront.filter (· ≠ ".")
  rw [directory_search_of_none hnone, leadingNames_eq, ← hback, List.append_assoc,
    List.append_assoc, ← List.append_assoc] at hsplit
  obtain ⟨next, more, hmore⟩ : ∃ next more, back ++ found = next :: more :=
    List.exists_cons_of_ne_nil fun hnil => hne (List.append_eq_nil_iff.mp hnil).2
  rw [hmore] at hsplit
  have hdirectory := h.isDirectory_of_found hbase hf hsplit
  rwa [resolve_append, h.resolve_start, resolve_filter_dot] at hdirectory

/-- A file that is found is found behind directories only: the path before the first star leads
through directories, if it leads anywhere or not. -/
lemma WellFormed.isDirectory_of_leadsThrough (h : t.WellFormed) {b : Location}
    (hbase : t.walk [] (t.search path).base = .ok b) {f : FoundFile} (hf : f ∈ t.filesBelow b)
    {found : List String}
    (hfound : namesBelow? (t.search path).directory ((t.search path).base ++ f.names) = some found)
    {l : Location} (hl : t.LeadsThrough (pathBeforeStar path) l) : t.isDirectory l := by
  cases hbefore : (t.locate (pathBeforeStar path)).toOption.filter
      fun l => (t.entry? l).isSome with
  | some location =>
    obtain ⟨hlocate, -⟩ := Option.filter_eq_some_iff.mp hbefore
    exact (locate_eq_ok (toOption_eq_some_iff.mp hlocate)).2 l hl
  | none =>
    obtain ⟨front, name, back, hnames, rfl⟩ := hl
    exact h.isDirectory_beforeStar hbefore hbase hf hfound ⟨name :: back, hnames.symm⟩

/-- A path that leads to a directory leads through directories. -/
lemma isDirectory_of_locate {directory : Location} (hlocate : t.locate path = .ok directory)
    (hdirectory : t.isDirectory directory) {front : List String} (hfront : front <+: names path) :
    t.isDirectory (resolve (t.start path) front) := by
  obtain ⟨htarget, hway⟩ := locate_eq_ok hlocate
  obtain ⟨back, hback⟩ := hfront
  cases back with
  | nil =>
    rw [List.append_nil] at hback
    rw [hback]
    rwa [htarget] at hdirectory
  | cons name back => exact hway _ ⟨front, name, back, hback.symm, rfl⟩

/-- A plain path that leads to a directory does so with a slash behind it. -/
lemma isDirectory_beforeStar_of_isPlain (hplain : isPlain path) (hne : path ≠ "")
    {directory : Location} (hlocate : t.locate path = .ok directory)
    (hdirectory : t.isDirectory directory) {front : List String}
    (hfront : front <+: names (pathBeforeStar path)) :
    t.isDirectory (resolve (t.start (pathBeforeStar path)) front) := by
  obtain ⟨spelled, hbefore, hnames⟩ := exists_names_beforeStar hplain hne
  have hstart := t.start_beforeStar hplain hne
  have hspelled : ∀ front, front <+: spelled → t.isDirectory (resolve (t.start path) front) := by
    intro front hfront
    refine isDirectory_of_locate hlocate hdirectory ?_
    rcases hnames with hnames | hnames
    · rwa [hnames]
    · rw [hnames]
      exact hfront.trans (List.prefix_append spelled ["."])
  rw [hstart]
  rw [hbefore] at hfront
  rcases List.prefix_concat_iff.mp hfront with rfl | hfront
  · rw [resolve_append]
    exact hspelled spelled List.prefix_rfl
  · exact hspelled front hfront

/-- A plain path leads to a directory if it leads through directories with a slash behind it. -/
lemma isDirectory_target_of_isPlain (hplain : isPlain path) (hne : path ≠ "")
    (hway : ∀ l, t.LeadsThrough (pathBeforeStar path) l → t.isDirectory l) :
    (∀ l, t.LeadsThrough path l → t.isDirectory l) ∧ t.isDirectory (t.target path) := by
  obtain ⟨spelled, hbefore, hnames⟩ := exists_names_beforeStar hplain hne
  have hstart := t.start_beforeStar hplain hne
  have hspelled : ∀ front, front <+: spelled → t.isDirectory (resolve (t.start path) front) := by
    rintro front ⟨back, rfl⟩
    obtain ⟨name, more, hmore⟩ := List.exists_cons_of_ne_nil
      (List.append_ne_nil_of_right_ne_nil back (List.cons_ne_nil "." []))
    refine hway _ ⟨front, name, more, ?_, by rw [hstart]⟩
    rw [hbefore, List.append_assoc, hmore]
  rw [target]
  rcases hnames with hnames | hnames
  · refine ⟨?_, hnames ▸ hspelled spelled List.prefix_rfl⟩
    rintro _ ⟨front, name, back, hsplit, rfl⟩
    exact hspelled front ⟨name :: back, hsplit ▸ hnames.symm ▸ rfl⟩
  · refine ⟨?_, ?_⟩
    · rintro _ ⟨front, name, back, hsplit, rfl⟩
      have hfront : front <+: spelled ++ ["."] := ⟨name :: back, hsplit.symm.trans hnames⟩
      refine hspelled front ((List.prefix_concat_iff.mp hfront).resolve_left ?_)
      rintro rfl
      simp [hnames] at hsplit
    · rw [hnames, resolve_append]
      exact hspelled spelled List.prefix_rfl

/-- A plain directory is one still where no directory is lost. -/
lemma plainDirectory?_of_keeps (hkeeps : KeepsDirectories t t') {directory : Location}
    (h : t.plainDirectory? path = some directory) : t'.plainDirectory? path = some directory := by
  obtain ⟨hplain, hlocate, hdirectory, hnames⟩ := plainDirectory?_eq_some_iff.mp h
  exact plainDirectory?_eq_some_iff.mpr
    ⟨hplain, locate_of_keeps hkeeps hlocate, hkeeps.isDirectory _ hdirectory, hnames⟩

/-- A plain directory was one before, if its path led through directories with a slash behind it. -/
lemma plainDirectory?_of_later (hkeeps : KeepsDirectories t t')
    (hway : ∀ l, t.LeadsThrough (pathBeforeStar path) l → t.isDirectory l) {directory : Location}
    (h : t'.plainDirectory? path = some directory) : t.plainDirectory? path = some directory := by
  obtain ⟨hplain, hlocate, -, hnames⟩ := plainDirectory?_eq_some_iff.mp h
  obtain ⟨hthrough, htarget⟩ :=
    isDirectory_target_of_isPlain hplain (ne_empty_of_locate hlocate) hway
  have hnow := locate_of_later hkeeps hlocate hthrough
  obtain rfl := (locate_eq_ok hnow).1
  exact plainDirectory?_eq_some_iff.mpr ⟨hplain, hnow, htarget, hnames⟩

/-- **A search asks for the same** where no directory is lost, if the path before the first star can
be followed through directories wherever it can be followed later. -/
lemma search_of_keeps (hkeeps : KeepsDirectories t t')
    (hentries : ∀ l, (t.entry? l).isSome → (t'.entry? l).isSome)
    (hway : ((t.locate (pathBeforeStar path)).toOption.filter fun l => (t.entry? l).isSome) = none →
      ∀ front, front <+: names (pathBeforeStar path) →
        t.isDirectory (resolve (t.start (pathBeforeStar path)) front)) :
    t'.search path = t.search path := by
  have hsame : ((t'.locate (pathBeforeStar path)).toOption.filter fun l => (t'.entry? l).isSome) =
      (t.locate (pathBeforeStar path)).toOption.filter fun l => (t.entry? l).isSome := by
    cases hnow : (t.locate (pathBeforeStar path)).toOption.filter fun l => (t.entry? l).isSome with
    | some location =>
      obtain ⟨hlocate, hsome⟩ := Option.filter_eq_some_iff.mp hnow
      rw [toOption_eq_some_iff] at hlocate
      exact Option.filter_eq_some_iff.mpr
        ⟨toOption_eq_some_iff.mpr (locate_of_keeps hkeeps hlocate), hentries _ hsome⟩
    | none =>
      refine Option.eq_none_iff_forall_ne_some.mpr fun location hlater => ?_
      obtain ⟨hlocate, -⟩ := Option.filter_eq_some_iff.mp hlater
      rw [toOption_eq_some_iff] at hlocate
      replace hway := hway hnow
      have hbefore : t.locate (pathBeforeStar path) = .ok location := by
        refine locate_of_later hkeeps hlocate ?_
        rintro l ⟨front, name, back, hnames, rfl⟩
        exact hway front ⟨name :: back, hnames.symm⟩
      have hdirectory : t.isDirectory location := by
        rw [(locate_eq_ok hbefore).1]
        exact hway _ List.prefix_rfl
      rw [hbefore] at hnow
      have hentry : t.entry? location = some .directory := of_decide_eq_true hdirectory
      simp [Except.toOption, hentry] at hnow
  rw [search, search, hsame, hkeeps.workingDirectory]

/-! ## What a template directory selects -/

/-- A template directory selects what stands at a location: it lies below the directory, or the
pattern selects the names that lead to it. -/
inductive Selects (t : Tree) (path : String) (location : Location) : Prop
  | plain {directory : Location} {names : List String}
      (hplain : t.plainDirectory? path = some directory) (hnames : names ≠ [])
      (hlocation : location = directory ++ names)
  | pattern {selection : Selection} {base : Location} {names : List String}
      (hpattern : t.plainDirectory? path = none)
      (hselection : t.selection? path = .ok (some selection))
      (hbase : t.walk [] (t.search path).base = .ok base) (hnames : names ≠ [])
      (hlocation : location = base ++ names) (hincludes : selection.includes names)

/-- What is there is still there after a text has been written. -/
lemma Written.keeps_entries {file text : String} (h : Written t t' file text) (l : Location)
    (hl : (t.entry? l).isSome) : (t'.entry? l).isSome := by
  by_cases htarget : l = t.target file
  · rw [htarget, h.file]
    rfl
  · by_cases hway : t.LeadsThrough file l
    · rw [(h.directories l hway).1]
      rfl
    · rwa [h.others l htarget hway]

/-- The files below a location that are looked for are the same after a text has been written, if
its file is not one of them. -/
lemma filter_filesBelow_writeText {file text : String} (h : (t.writeText file text).1 = .ok ())
    {base : Location} {p : FoundFile → Bool}
    (hfile : ∀ f : FoundFile, f.names ≠ [] → t.target file = base ++ f.names → p f = false) :
    ((t.writeText file text).2.filesBelow base).filter p = (t.filesBelow base).filter p := by
  rw [filesBelow, filesBelow, List.filter_filterMap, List.filter_filterMap]
  refine filterMap_entries_writeText h (fun l => rfl) fun e => ?_
  cases e with
  | directory => rfl
  | file content =>
    cases hnames : namesBelow? base (t.target file) with
    | none => simp [hnames]
    | some names =>
      obtain ⟨hne, hlocation⟩ := namesBelow?_eq_some_iff.mp hnames
      simp [hnames, Option.filter, hfile ⟨names, t.target file, content⟩ hne hlocation]

/-- The files of a directory are the same after a text has been written elsewhere. -/
lemma filesBelow_writeText {file text : String} (h : (t.writeText file text).1 = .ok ())
    {directory : Location} (hfile : ∀ names, names ≠ [] → t.target file ≠ directory ++ names) :
    (t.writeText file text).2.filesBelow directory = t.filesBelow directory := by
  have hsame := @filter_filesBelow_writeText t file text h directory (fun _ => true)
    fun f hne hlocation => absurd hlocation (hfile f.names hne)
  rwa [List.filter_true, List.filter_true] at hsame

/-- A search that finds something finds a file below its base, and names lead to it. -/
lemma exists_of_find {s : Search} {selection : Selection} {found : List FoundFile}
    (h : t.find s selection = .ok found) (hne : found ≠ []) :
    ∃ base f names, t.walk [] s.base = .ok base ∧ f ∈ t.filesBelow base ∧
      namesBelow? s.directory (s.base ++ f.names) = some names := by
  unfold find at h
  cases hbase : t.walk [] s.base with
  | error obstacle =>
    rw [hbase] at h
    exact absurd (Except.ok.inj h).symm hne
  | ok base =>
    simp only [hbase] at h
    cases hselected : (t.filesBelow base).filter fun f => selection.includes f.names with
    | nil =>
      rw [hselected] at h
      exact absurd (Except.ok.inj h).symm hne
    | cons f others =>
      have hf : f ∈ t.filesBelow base :=
        List.mem_of_mem_filter (hselected ▸ List.mem_cons_self)
      rw [hselected, List.mapM_cons, bind_eq_ok_iff] at h
      obtain ⟨g, hg, -⟩ := h
      cases hnames : namesBelow? s.directory (s.base ++ f.names) with
      | none => simp [hnames] at hg
      | some names => exact ⟨base, f, names, rfl, hf, hnames⟩

/-- A search finds the same where its base leads to the same files that are selected. -/
lemma find_congr {s : Search} {selection : Selection} {base : Location}
    (h : t.walk [] s.base = .ok base) (h' : t'.walk [] s.base = .ok base)
    (hselected : ((t'.filesBelow base).filter fun f => selection.includes f.names) =
      (t.filesBelow base).filter fun f => selection.includes f.names) :
    t'.find s selection = t.find s selection := by
  unfold find
  simp only [h, h', hselected]

/-- **A template directory holds the same files** after a text has been written elsewhere, if it
held any, and its path is understood as before.

**Proof sketch.** The path before the first star leads where it led before: if it led nowhere, files
would have been found through directories that it spells (`WellFormed.isDirectory_of_found`). What
is looked for is then the same, and the only file that is new or different is not selected. -/
theorem templateFiles_writeText (hwf : t.WellFormed) {found : List FoundFile}
    (hfound : t.templateFiles path = .ok found) (hne : found ≠ []) {file text : String}
    (hwrite : (t.writeText file text).1 = .ok ()) (hfile : ¬ t.Selects path (t.target file)) :
    (t.writeText file text).2.search path = t.search path ∧
      (t.writeText file text).2.templateFiles path = .ok found := by
  have hwritten := written_of_writeText hwrite
  have hkeeps := hwritten.keeps
  have hentries := hwritten.keeps_entries
  unfold templateFiles at hfound
  cases hplain : t.plainDirectory? path with
  | some directory =>
    obtain ⟨hpath, hlocate, hdirectory, -⟩ := plainDirectory?_eq_some_iff.mp hplain
    refine ⟨search_of_keeps hkeeps hentries fun _ _ =>
      isDirectory_beforeStar_of_isPlain hpath (ne_empty_of_locate hlocate) hlocate hdirectory, ?_⟩
    simp only [hplain] at hfound
    simp only [templateFiles, plainDirectory?_of_keeps hkeeps hplain]
    rw [← hfound, filesBelow_writeText hwrite fun names hnames hlocation =>
      hfile (.plain hplain hnames hlocation)]
  | none =>
    simp only [hplain, bind_eq_ok_iff] at hfound
    obtain ⟨selection, hselection, hfound⟩ := hfound
    cases selection with
    | none => exact absurd (Except.ok.inj hfound).symm hne
    | some selection =>
      obtain ⟨base, f, names, hbase, hf, hnames⟩ := exists_of_find hfound hne
      have hsearch : (t.writeText file text).2.search path = t.search path :=
        search_of_keeps hkeeps hentries fun hnone _ =>
          hwf.isDirectory_beforeStar hnone hbase hf hnames
      have hlater : (t.writeText file text).2.plainDirectory? path = none := by
        refine Option.eq_none_iff_forall_ne_some.mpr fun directory hdirectory => ?_
        have hnow := plainDirectory?_of_later hkeeps
          (fun l hl => hwf.isDirectory_of_leadsThrough hbase hf hnames hl) hdirectory
        cases hplain.symm.trans hnow
      have hselected := @filter_filesBelow_writeText t file text hwrite base
        (fun f => selection.includes f.names) fun g hg hlocation =>
          Bool.eq_false_iff.mpr fun hincludes =>
            hfile (.pattern hplain hselection hbase hg hlocation hincludes)
      have hfind := find_congr hbase (walk_of_keeps hkeeps hbase) hselected
      refine ⟨hsearch, ?_⟩
      simp only [templateFiles, hlater]
      rw [selection?, hsearch, ← selection?, hselection, ok_bind]
      exact hfind.trans hfound

end Tree

end RegisterFile.Files

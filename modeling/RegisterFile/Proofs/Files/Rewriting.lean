import Mathlib.Tactic.SplitIfs
import RegisterFile.Proofs.Files.Writing

set_option autoImplicit false

/-!
# Writing a file again

A text that has been written is written again without any difference: the directories that lead to
its file are there, and the file holds the text already. What writing leaves behind is told entry by
entry here, so that two trees can be the same in the order of their entries as well, and so that
nothing else is found in the second tree than in the first one.

## Main definitions

* `Files.Tree.KeepsDirectories` - paths start in the same place, and no directory is lost.
* `Files.Tree.ChangesAt` - nothing is different but at some locations and where a directory is new.
* `Files.Tree.MakesDirectories` - a tree comes from another one by making directories.

## Main results

* `Files.Tree.locate_of_keeps` - a path that can be followed leads to the same place afterwards.
* `Files.Tree.ChangesAt.readText` - what is read from a file that is not changed.
* `Files.Tree.filterMap_entries_writeText` - what is found does not depend on directories that are
  made and on the file that is written.
* `Files.Tree.writeText_again` - a text that is written again changes nothing.
-/

namespace RegisterFile.Files

/-! ## Setting entries -/

/-- An entry that is set is set already. -/
lemma setEntry_setEntry (location : Location) (entry : Entry)
    (entries : List (Location × Entry)) :
    setEntry location entry (setEntry location entry entries) =
      setEntry location entry entries := by
  induction entries with
  | nil => simp [setEntry]
  | cons first rest ih =>
    obtain ⟨l, e⟩ := first
    by_cases hl : l = location
    · simp [setEntry, hl]
    · simp [setEntry, hl, ih]

/-- What is found among some entries is not changed by setting one that is not found, in place of
entries that are not found. -/
lemma filterMap_setEntry {α : Type} {f : Location × Entry → Option α} {location : Location}
    {entry : Entry} {entries : List (Location × Entry)}
    (hold : ∀ e, (location, e) ∈ entries → f (location, e) = none)
    (hnew : f (location, entry) = none) :
    (setEntry location entry entries).filterMap f = entries.filterMap f := by
  induction entries with
  | nil => simp [setEntry, hnew]
  | cons first rest ih =>
    obtain ⟨l, e⟩ := first
    by_cases hl : l = location
    · subst hl
      rw [setEntry, if_pos rfl, List.filterMap_cons_none hnew,
        List.filterMap_cons_none (hold e List.mem_cons_self)]
    · rw [setEntry, if_neg hl, List.filterMap_cons, List.filterMap_cons,
        ih fun e he => hold e (List.mem_cons_of_mem _ he)]

namespace Tree

variable {t t' : Tree}

/-- Nothing is bound to a location where nothing stands. -/
lemma notMem_entries_of_vacant {location : Location} (h : t.entry? location = none) (e : Entry) :
    (location, e) ∉ t.entries := by
  have hroot := ne_nil_of_vacant h
  unfold entry? at h
  rw [if_neg hroot] at h
  intro he
  simpa using List.lookup_eq_none_iff.mp h _ he

/-! ## Keeping directories -/

/-- Paths start in the same place, and the directories of `t` are directories of `t'`. -/
structure KeepsDirectories (t t' : Tree) : Prop where
  workingDirectory : t'.workingDirectory = t.workingDirectory
  isDirectory : ∀ l, t.isDirectory l → t'.isDirectory l

/-- Nothing is lost where directories are added. -/
lemma AddsDirectories.keeps {A : Location → Prop} (h : AddsDirectories t t' A) :
    KeepsDirectories t t' where
  workingDirectory := h.workingDirectory
  isDirectory l hl := by
    rcases h.entries l with heq | ⟨hnone, -, -⟩
    · rwa [Tree.isDirectory, heq]
    · rw [Tree.isDirectory, hnone] at hl
      cases hl

/-- No directory is lost where a text is written. -/
lemma Written.keeps {path text : String} (h : Written t t' path text) :
    KeepsDirectories t t' where
  workingDirectory := h.workingDirectory
  isDirectory l hl := by
    have hentry : t.entry? l = some .directory := of_decide_eq_true hl
    have htarget : l ≠ t.target path := by
      rintro rfl
      exact h.replaced hentry
    by_cases hway : t.LeadsThrough path l
    · exact decide_eq_true (h.directories l hway).1
    · rwa [isDirectory, h.others l htarget hway]

/-- A directory that is kept stands where it stood. -/
lemma KeepsDirectories.eq_of_isDirectory (h : KeepsDirectories t t') {l : Location}
    (hl : t.isDirectory l) : t'.entry? l = t.entry? l :=
  (of_decide_eq_true (h.isDirectory l hl)).trans (of_decide_eq_true hl).symm

/-- Names that can be followed lead to the same place where no directory is lost. -/
lemma walk_of_keeps (h : KeepsDirectories t t') {start location : Location} {names : List String}
    (hwalk : t.walk start names = .ok location) : t'.walk start names = .ok location := by
  rw [← hwalk]
  exact walk_congr fun front name back hnames =>
    h.eq_of_isDirectory ((walk_eq_ok hwalk).2 front name back hnames)

/-- **A path that can be followed leads to the same place** where no directory is lost. -/
theorem locate_of_keeps (h : KeepsDirectories t t') {path : String} {location : Location}
    (hlocate : t.locate path = .ok location) : t'.locate path = .ok location := by
  rw [← hlocate]
  exact locate_congr h.workingDirectory fun l hl =>
    h.eq_of_isDirectory ((locate_eq_ok hlocate).2 l hl)

/-- A path that can be followed later can be followed now if it leads through directories. -/
lemma locate_of_later (h : KeepsDirectories t t') {path : String} {location : Location}
    (hlocate : t'.locate path = .ok location)
    (hway : ∀ l, t.LeadsThrough path l → t.isDirectory l) : t.locate path = .ok location := by
  rw [← hlocate]
  exact (locate_congr h.workingDirectory fun l hl => h.eq_of_isDirectory (hway l hl)).symm

/-- Names lead to a directory if they can be followed to one. -/
lemma leadsToDirectory_iff {start : Location} {names : List String} :
    t.leadsToDirectory start names ↔
      ∃ location, t.walk start names = .ok location ∧ t.isDirectory location := by
  unfold leadsToDirectory
  cases t.walk start names <;> simp

/-- Names that lead to a directory still do where no directory is lost. -/
lemma leadsToDirectory_of_keeps (h : KeepsDirectories t t') {start : Location}
    {names : List String} (hleads : t.leadsToDirectory start names) :
    t'.leadsToDirectory start names := by
  obtain ⟨location, hwalk, hdirectory⟩ := leadsToDirectory_iff.mp hleads
  exact leadsToDirectory_iff.mpr ⟨location, walk_of_keeps h hwalk, h.isDirectory _ hdirectory⟩

/-! ## Changing some places -/

/-- No directory is lost, and nothing is different in `t'` but at locations of a kind and where a
directory is new. -/
structure ChangesAt (t t' : Tree) (A : Location → Prop) : Prop where
  keeps : KeepsDirectories t t'
  entries : ∀ l, ¬ A l → t'.entry? l = t.entry? l ∨
    t.entry? l = none ∧ t'.entry? l = some .directory

/-- Where nothing is done, nothing is different. -/
lemma ChangesAt.refl (t : Tree) (A : Location → Prop) : ChangesAt t t A :=
  ⟨⟨rfl, fun _ => id⟩, fun _ _ => .inl rfl⟩

/-- What is different at locations of a kind is so at those of a wider kind. -/
lemma ChangesAt.mono {A B : Location → Prop} (h : ChangesAt t t' A) (hAB : ∀ l, A l → B l) :
    ChangesAt t t' B :=
  ⟨h.keeps, fun l hl => h.entries l (mt (hAB l) hl)⟩

/-- What is different after two changes is so after one of them. -/
lemma ChangesAt.trans {t'' : Tree} {A : Location → Prop} (h : ChangesAt t t' A)
    (h' : ChangesAt t' t'' A) : ChangesAt t t'' A where
  keeps :=
    ⟨h'.keeps.workingDirectory.trans h.keeps.workingDirectory,
      fun l hl => h'.keeps.isDirectory l (h.keeps.isDirectory l hl)⟩
  entries l hl := by
    rcases h.entries l hl with heq | ⟨hnone, hdirectory⟩
    · rw [← heq]
      exact h'.entries l hl
    · have hkept := h'.keeps.isDirectory l (decide_eq_true hdirectory)
      exact .inr ⟨hnone, of_decide_eq_true hkept⟩

/-- Adding directories changes nothing else. -/
lemma AddsDirectories.changesAt {A : Location → Prop} (h : AddsDirectories t t' A)
    (B : Location → Prop) : ChangesAt t t' B :=
  ⟨h.keeps, fun l _ => (h.entries l).imp_right fun ⟨hnone, hdirectory, _⟩ => ⟨hnone, hdirectory⟩⟩

/-- Writing a text changes its file. -/
lemma Written.changesAt {path text : String} (h : Written t t' path text) :
    ChangesAt t t' (· = t.target path) where
  keeps := h.keeps
  entries l hl := by
    by_cases hway : t.LeadsThrough path l
    · obtain ⟨hnew, hold | hold⟩ := h.directories l hway
      · exact .inr ⟨hold, hnew⟩
      · exact .inl (hnew.trans hold.symm)
    · exact .inl (h.others l hl hway)

/-- **What can be read is still read** where a file is not changed. -/
theorem ChangesAt.readText {A : Location → Prop} (h : ChangesAt t t' A) {path content : String}
    (hread : t.readText path = .ok content) (hpath : ¬ A (t.target path)) :
    t'.readText path = .ok content := by
  unfold Tree.readText at hread
  cases hlocate : t.locate path with
  | error obstacle => simp [hlocate] at hread
  | ok location =>
    have hentry : t'.entry? location = t.entry? location := by
      rw [(locate_eq_ok hlocate).1]
      refine (h.entries _ hpath).resolve_right fun ⟨hnone, _⟩ => ?_
      rw [← (locate_eq_ok hlocate).1] at hnone
      simp [hlocate, hnone] at hread
    rw [← hread, Tree.readText, locate_of_keeps h.keeps hlocate]
    simp only [hlocate, hentry]

/-! ## Making directories -/

/-- The tree `t'` comes from `t` by making directories, one after another, where nothing stood. -/
inductive MakesDirectories (t : Tree) : Tree → Prop
  | nothing : MakesDirectories t t
  | further {t' : Tree} {location : Location} (h : MakesDirectories t t')
      (hvacant : t'.entry? location = none) : MakesDirectories t (t'.set location .directory)

/-- What is found among the entries does not depend on directories that are made. -/
lemma MakesDirectories.filterMap_entries {α : Type} {f : Location × Entry → Option α}
    (h : MakesDirectories t t') (hf : ∀ l, f (l, .directory) = none) :
    t'.entries.filterMap f = t.entries.filterMap f := by
  induction h with
  | nothing => rfl
  | further _ hvacant ih =>
    exact (filterMap_setEntry (fun e he => absurd he (notMem_entries_of_vacant hvacant e))
      (hf _)).trans ih

/-- Making the directories that lead to a file makes one after another, even if it fails. -/
lemma makesDirectories_makeParents (t : Tree) (path : String) :
    MakesDirectories t (t.makeParents path).2 := by
  apply makeParents_induction (P := MakesDirectories t)
  · exact .nothing
  · intro u u' front hu _ _ hmake
    obtain ⟨location, -, hvacant, rfl⟩ := exists_of_makeDirectory hmake
    exact hu.further hvacant

/-! ## Making directories again -/

/-- The names lead to the directory that has been made. -/
lemma leadsToDirectory_of_makeDirectory {start : Location} {names : List String}
    (h : t.makeDirectory start names = .ok t') : t'.leadsToDirectory start names := by
  have hkeeps := (addsDirectories_makeDirectory h).keeps
  obtain ⟨location, hwalk, hvacant, rfl⟩ := exists_of_makeDirectory h
  have hentry := (entry_set (ne_nil_of_vacant hvacant) t .directory location).trans (if_pos rfl)
  exact leadsToDirectory_iff.mpr ⟨location, walk_of_keeps hkeeps hwalk, decide_eq_true hentry⟩

/-- A directory that cannot be made is accepted if the names lead to one. -/
lemma leadsToDirectory_of_acceptDirectory {start : Location} {names : List String}
    {obstacle : Obstacle} (h : t.acceptDirectory start names obstacle = .ok ()) :
    t.leadsToDirectory start names := by
  unfold acceptDirectory at h
  split at h
  next hleads => exact hleads
  · cases h

/-- The names lead to a directory if it could be made with those on the way to it. -/
lemma leadsToDirectory_of_makeDirectories {start : Location} {name : String}
    {above : List String} (h : (t.makeDirectories start (name :: above)).1 = .ok ()) :
    (t.makeDirectories start (name :: above)).2.leadsToDirectory start
      (name :: above).reverse := by
  unfold makeDirectories at h ⊢
  dsimp only at h ⊢
  split at h
  next hmake => exact leadsToDirectory_of_makeDirectory hmake
  · split at h
    · cases h
    next habove =>
      split at h
      next hmake => exact leadsToDirectory_of_makeDirectory hmake
      · exact leadsToDirectory_of_acceptDirectory h
  next hmake => exact leadsToDirectory_of_acceptDirectory h

/-- A directory that is there is not made. -/
lemma makeDirectories_of_leadsToDirectory {start : Location} {name : String}
    {above : List String} (h : t.leadsToDirectory start (name :: above).reverse) :
    t.makeDirectories start (name :: above) = (.ok (), t) := by
  have hmake : t.makeDirectory start (name :: above).reverse = .error .alreadyExists := by
    obtain ⟨location, hwalk, hdirectory⟩ := leadsToDirectory_iff.mp h
    have hentry : t.entry? location = some .directory := of_decide_eq_true hdirectory
    simp only [makeDirectory, hwalk, hentry, ok_bind]
  rw [makeDirectories]
  simp only [hmake, acceptDirectory, h, if_true]

/-- Directories that have been made are not made again where none of them is lost. -/
lemma makeParents_again {path : String} (h : (t.makeParents path).1 = .ok ())
    (hkeeps : KeepsDirectories t t') (hlater : KeepsDirectories (t.makeParents path).2 t') :
    t'.makeParents path = (.ok (), t') := by
  unfold makeParents at h hlater ⊢
  dsimp only at h hlater ⊢
  split_ifs with hparent
  · rfl
  rw [if_neg hparent] at h hlater
  cases hcheck : checkPath (parent path) with
  | error obstacle => simp [hcheck] at h
  | ok _ =>
    simp only [hcheck, start_congr hkeeps.workingDirectory] at h hlater ⊢
    generalize (names (parent path)).reverse = reversed at h hlater ⊢
    cases reversed with
    | nil => rfl
    | cons name above =>
      have hleads := @leadsToDirectory_of_makeDirectories t (t.start (parent path)) name above
      rcases hmade : t.makeDirectories (t.start (parent path)) (name :: above) with
        ⟨_ | _, u⟩
      · simp [hmade] at h
      · simp only [hmade] at hlater hleads
        rw [makeDirectories_of_leadsToDirectory
          (leadsToDirectory_of_keeps hlater (hleads trivial))]

/-! ## Writing again -/

/-- What is in a tree after a text has been written: some directories were made, and the file was
set. -/
lemma exists_of_writeText {path text : String} (h : (t.writeText path text).1 = .ok ()) :
    (t.makeParents path).1 = .ok () ∧
      (t.makeParents path).2.locateFile path = .ok (t.target path) ∧
      (t.writeText path text).2 =
        (t.makeParents path).2.set (t.target path) (.file text.toUTF8) := by
  obtain ⟨hparents, location, hlocation⟩ := (writeText_eq_ok_iff path text).mp h
  have htarget := target_congr (t.addsDirectories_makeParents path).workingDirectory path
  obtain rfl : location = t.target path :=
    ((locate_eq_ok (locateFile_eq_ok hlocation).1).1).trans htarget
  refine ⟨hparents, hlocation, ?_⟩
  rw [writeText]
  rcases hmade : t.makeParents path with ⟨_ | _, u⟩
  · rw [hmade] at hparents
    cases hparents
  · rw [hmade] at hlocation
    simp only [createFile, hlocation]

/-- A text that has been written is in its file. -/
lemma written_of_writeText {path text : String} (h : (t.writeText path text).1 = .ok ()) :
    Written t (t.writeText path text).2 path text :=
  (IsWritable.writeText ⟨text, h⟩ text).2

/-- **What is found among the entries** does not depend on the directories that are made and on the
file that is written, if none of them is found. -/
theorem filterMap_entries_writeText {α : Type} {f : Location × Entry → Option α}
    {path text : String} (h : (t.writeText path text).1 = .ok ())
    (hdirectories : ∀ l, f (l, .directory) = none) (hfile : ∀ e, f (t.target path, e) = none) :
    (t.writeText path text).2.entries.filterMap f = t.entries.filterMap f := by
  obtain ⟨-, -, hset⟩ := exists_of_writeText h
  rw [hset]
  exact (filterMap_setEntry (fun e _ => hfile e) (hfile _)).trans
    ((t.makesDirectories_makeParents path).filterMap_entries hdirectories)

/-- **What is read from another file** is the same after a text has been written. -/
lemma readText_writeText {path text input content : String}
    (h : (t.writeText path text).1 = .ok ()) (hread : t.readText input = .ok content)
    (hinput : t.target path ≠ t.target input) :
    (t.writeText path text).2.readText input = .ok content :=
  (written_of_writeText h).changesAt.readText hread hinput.symm

/-- A file may be written where it could be located, unless a directory stands there. -/
lemma locateFile_of_locate {path : String} {location location' : Location}
    (h : t.locateFile path = .ok location) (hlocate : t'.locate path = .ok location')
    (hdirectory : ¬ t'.isDirectory location') : t'.locateFile path = .ok location' := by
  unfold locateFile at h ⊢
  split_ifs with hslash
  · rw [if_pos hslash] at h
    simp [bind_eq_ok_iff] at h
  · simp [hlocate, hdirectory]

/-- **A text that is written again changes nothing.**

**Proof sketch.** The directories that lead to the file are there, so that none is made
(`makeParents_again`), and the file is set to what it is set to already (`setEntry_setEntry`). -/
theorem writeText_again {path text : String} (h : (t.writeText path text).1 = .ok ()) :
    (t.writeText path text).2.writeText path text = (.ok (), (t.writeText path text).2) := by
  obtain ⟨hparents, hlocateFile, hset⟩ := exists_of_writeText h
  have hwritten := written_of_writeText h
  have hcreated : Written (t.makeParents path).2 (t.writeText path text).2 path text := by
    refine written_createFile ?_
    rw [createFile, hlocateFile, hset]
  generalize (t.writeText path text).2 = t' at hset hwritten hcreated ⊢
  have hlocate : t'.locate path = .ok (t.target path) :=
    locate_of_keeps hcreated.keeps (locateFile_eq_ok hlocateFile).1
  have hfile : ¬ t'.isDirectory (t.target path) := by
    rw [isDirectory, hwritten.file]
    simp
  have hsame : t'.set (t.target path) (.file text.toUTF8) = t' := by
    rw [hset, set, set, setEntry_setEntry]
  rw [writeText, makeParents_again hparents hwritten.keeps hcreated.keeps]
  simp only [createFile, locateFile_of_locate hlocateFile hlocate hfile, hsame]

end Tree

end RegisterFile.Files

import RegisterFile.Proofs.Files.Walking

set_option autoImplicit false

/-!
# What writing a file changes

A text is written in two steps: the directories on the way to the file are made, then the file is
created. The first step replaces nothing, and the second changes a single place. So a text that is
written changes its file and the missing directories on the way to it, and a text that is not
written changes at most some of the latter.

## Main definitions

* `Files.Tree.AddsDirectories` - nothing is different but some directories where nothing was.
* `Files.Tree.Written` - a text is in a file, directories lead to it, and nothing else is different.
* `Files.Tree.IsWritable` - a text can be written where a path leads to.

## Main results

* `Files.Tree.makeDirectories_induction`, `Files.Tree.makeParents_induction` - what making one
  directory keeps is kept by making several.
* `Files.Tree.addsDirectories_makeParents` - what the first step changes, even if it fails.
* `Files.Tree.writeText_cases` - what writing a text changes.
* `Files.Tree.IsWritable.writeText` - where a text can be written, every text can.
-/

namespace RegisterFile.Files

/-- Whether an action is one of writing. -/
def Action.writes : Action → Bool
  | .openFile | .readFile => false
  | .createDirectory | .createFile => true

/-! ## Setting entries -/

/-- The binding that is set is found, and the others are as before. -/
lemma lookup_setEntry (location l : Location) (entry : Entry)
    (entries : List (Location × Entry)) :
    (setEntry location entry entries).lookup l =
      if l = location then some entry else entries.lookup l := by
  induction entries with
  | nil =>
    by_cases h : l = location
    · simp [setEntry, h]
    · simp [setEntry, List.lookup_cons, beq_false_of_ne h, h]
  | cons first rest ih =>
    obtain ⟨m, e⟩ := first
    unfold setEntry
    by_cases hm : m = location
    · rw [if_pos hm]
      subst hm
      by_cases h : l = m
      · simp [h]
      · simp [List.lookup_cons, beq_false_of_ne h, h]
    · rw [if_neg hm]
      by_cases h : l = m
      · subst h
        simp [hm]
      · simp [List.lookup_cons, beq_false_of_ne h, ih]

namespace Tree

variable {t t' t'' : Tree} {A B : Location → Prop}

/-- What stands in a tree with one entry set. -/
lemma entry_set {location : Location} (h : location ≠ []) (t : Tree) (entry : Entry)
    (l : Location) : entry? (t.set location entry) l = if l = location then some entry
      else t.entry? l := by
  unfold entry?
  by_cases hl : l = []
  · rw [if_pos hl, if_pos hl, hl, if_neg h.symm]
  · rw [if_neg hl, if_neg hl]
    exact lookup_setEntry location l entry t.entries

/-- Nothing stands at a location that is not the root. -/
lemma ne_nil_of_vacant {location : Location} (h : t.entry? location = none) :
    location ≠ [] := by
  rintro rfl
  unfold entry? at h
  simp at h

/-! ## Making directories -/

/-- Nothing is different in `t'` but some directories where nothing was in `t`, at locations of a
kind. -/
structure AddsDirectories (t t' : Tree) (A : Location → Prop) : Prop where
  workingDirectory : t'.workingDirectory = t.workingDirectory
  entries : ∀ l, t'.entry? l = t.entry? l ∨
    t.entry? l = none ∧ t'.entry? l = some .directory ∧ A l

/-- Where nothing is done, nothing is different. -/
lemma AddsDirectories.refl (t : Tree) (A : Location → Prop) : AddsDirectories t t A :=
  ⟨rfl, fun _ => .inl rfl⟩

/-- Directories that are added at locations of a kind are so at those of a wider kind, the root
apart. -/
lemma AddsDirectories.mono (h : AddsDirectories t t' A) (hAB : ∀ l, l ≠ [] → A l → B l) :
    AddsDirectories t t' B :=
  ⟨h.workingDirectory, fun l => (h.entries l).imp_right fun ⟨hnone, hdirectory, hA⟩ =>
    ⟨hnone, hdirectory, hAB l (ne_nil_of_vacant hnone) hA⟩⟩

/-- Directories that are added one time and another are added. -/
lemma AddsDirectories.trans (h : AddsDirectories t t' A) (h' : AddsDirectories t' t'' A) :
    AddsDirectories t t'' A := by
  refine ⟨h'.workingDirectory.trans h.workingDirectory, fun l => ?_⟩
  rcases h.entries l with heq | ⟨hnone, hdirectory, hA⟩
  · rw [← heq]
    exact h'.entries l
  · rcases h'.entries l with heq' | ⟨hnone', -, -⟩
    · exact .inr ⟨hnone, heq'.trans hdirectory, hA⟩
    · rw [hdirectory] at hnone'
      cases hnone'

/-- A directory is made where nothing stands. -/
lemma exists_of_makeDirectory {start : Location} {names : List String}
    (h : t.makeDirectory start names = .ok t') :
    ∃ location, t.walk start names = .ok location ∧ t.entry? location = none ∧
      t' = t.set location .directory := by
  obtain ⟨location, hwalk, hset⟩ := bind_eq_ok_iff.mp h
  split at hset
  · cases hset
  next hnone => exact ⟨location, hwalk, hnone, (Except.ok.inj hset).symm⟩

/-- A new directory stands where nothing was, at the location that its names spell. -/
lemma addsDirectories_makeDirectory {start : Location} {names : List String}
    (h : t.makeDirectory start names = .ok t') :
    AddsDirectories t t' (· = resolve start names) := by
  obtain ⟨location, hwalk, hvacant, rfl⟩ := exists_of_makeDirectory h
  refine ⟨rfl, fun l => ?_⟩
  rw [entry_set (ne_nil_of_vacant hvacant)]
  by_cases hl : l = location
  · rw [if_pos hl, hl]
    exact .inr ⟨hvacant, rfl, (walk_eq_ok hwalk).1⟩
  · exact .inl (if_neg hl)

/-- **What making one directory keeps** is kept by making a directory and those on the way to it,
even if that fails.

The induction is on the names, last one first: the directories above are those of the rest. -/
theorem makeDirectories_induction {P : Tree → Prop} {start : Location} {reversed : List String}
    (hstart : P t)
    (hstep : ∀ u u' front, P u → front <+: reversed.reverse →
      u.makeDirectory start front = .ok u' → P u') :
    P (t.makeDirectories start reversed).2 := by
  induction reversed with
  | nil => exact hstart
  | cons name above ih =>
    have habove : P (t.makeDirectories start above).2 := by
      refine ih fun u u' front hu hfront => hstep u u' front hu ?_
      rw [List.reverse_cons]
      exact hfront.trans (List.prefix_append _ _)
    have hlast : ∀ {u u' : Tree}, P u → u.makeDirectory start (name :: above).reverse = .ok u' →
        P u' := fun hu h => hstep _ _ _ hu List.prefix_rfl h
    unfold makeDirectories
    dsimp only
    split
    next h => exact hlast hstart h
    · split
      next h => rwa [h] at habove
      next h =>
        rw [h] at habove
        split
        next h' => exact hlast habove h'
        · exact habove
    · exact hstart

/-- What making one directory on the way to a file keeps is kept by making those that lead to it,
even if that fails. -/
theorem makeParents_induction {P : Tree → Prop} {path : String} (hstart : P t)
    (hstep : ∀ u u' front, P u → parent path ≠ "" → front <+: names (parent path) →
      u.makeDirectory (t.start (parent path)) front = .ok u' → P u') :
    P (t.makeParents path).2 := by
  unfold makeParents
  dsimp only
  split
  · exact hstart
  next hparent =>
    split
    · exact hstart
    · have hmade : P (t.makeDirectories (t.start (parent path))
          (names (parent path)).reverse).2 := by
        refine makeDirectories_induction hstart fun u u' front hu hfront => ?_
        rw [List.reverse_reverse] at hfront
        exact hstep u u' front hu hparent hfront
      split
      next h => rwa [h] at hmade
      next h => rwa [h] at hmade

/-- Making the directories that lead to a file adds some of them and changes nothing else, even if
it fails. -/
theorem addsDirectories_makeParents (t : Tree) (path : String) :
    AddsDirectories t (t.makeParents path).2 (t.LeadsThrough path) := by
  apply makeParents_induction (P := fun u => AddsDirectories t u (t.LeadsThrough path))
  · exact .refl t _
  · intro u u' front hu hparent hfront hmake
    refine hu.trans ((addsDirectories_makeDirectory hmake).mono fun l hl hl' => ?_)
    rw [hl'] at hl ⊢
    exact (t.leadsThrough_of_parent hparent hfront).resolve_left hl

/-- A fault on the way to a file is one of making a directory. -/
lemma action_of_makeParents {path : String} {fault : Fault}
    (h : t.makeParents path = (.error fault, t')) : fault.action = .createDirectory := by
  unfold makeParents at h
  dsimp only at h
  split at h
  · cases h
  · split at h
    · cases h
      rfl
    · split at h <;> cases h
      rfl

/-! ## Creating a file -/

/-- A file may be written where a path leads to and no directory stands. -/
lemma locateFile_eq_ok {path : String} {location : Location}
    (h : t.locateFile path = .ok location) :
    t.locate path = .ok location ∧ ¬ t.isDirectory location := by
  unfold locateFile at h
  split at h
  · simp [bind_eq_ok_iff] at h
  · obtain ⟨l, hlocate, hfile⟩ := bind_eq_ok_iff.mp h
    split at hfile
    · cases hfile
    next hdirectory =>
      obtain rfl := Except.ok.inj hfile
      exact ⟨hlocate, by simpa using hdirectory⟩

/-- A fault of creating a file is told as one. -/
lemma action_of_createFile {path text : String} {fault : Fault}
    (h : t.createFile path text = .error fault) : fault.action = .createFile := by
  unfold createFile at h
  split at h
  · cases h
  · cases h
    rfl

/-- A text is in the file that a path leads to, directories lead to it, and nothing else is
different: where a directory is new, nothing was. -/
structure Written (t t' : Tree) (path text : String) : Prop where
  workingDirectory : t'.workingDirectory = t.workingDirectory
  readText : t'.readText path = .ok text
  file : t'.entry? (t.target path) = some (.file text.toUTF8)
  replaced : t.entry? (t.target path) ≠ some .directory
  directories : ∀ l, t.LeadsThrough path l → t'.entry? l = some .directory ∧
    (t.entry? l = none ∨ t.entry? l = some .directory)
  others : ∀ l, l ≠ t.target path → ¬ t.LeadsThrough path l → t'.entry? l = t.entry? l

/-- The bytes of a text are text. -/
@[simp] lemma fromUTF8?_toUTF8 (text : String) : String.fromUTF8? text.toUTF8 = some text := by
  rw [String.fromUTF8?, String.toUTF8_eq_toByteArray, dif_pos text.isValidUTF8]
  rfl

/-- A file that is created holds its text, and nothing else is different. -/
lemma written_createFile {path text : String} (h : t.createFile path text = .ok t') :
    Written t t' path text := by
  unfold createFile at h
  cases hlocateFile : t.locateFile path with
  | error obstacle => simp [hlocateFile] at h
  | ok location =>
    rw [hlocateFile] at h
    obtain rfl := Except.ok.inj h
    obtain ⟨hlocate, hdirectory⟩ := locateFile_eq_ok hlocateFile
    obtain ⟨rfl, hway⟩ := locate_eq_ok hlocate
    have hentry : t.entry? (t.target path) ≠ some .directory := by
      simpa [isDirectory] using hdirectory
    have hne : t.target path ≠ [] := by
      intro hnil
      rw [hnil] at hentry
      exact hentry rfl
    have hset := entry_set hne t (.file text.toUTF8)
    have hthrough : ∀ l, t.LeadsThrough path l → l ≠ t.target path := by
      rintro l hl rfl
      exact hdirectory (hway _ hl)
    have hfile := (hset (t.target path)).trans (if_pos rfl)
    have hsame : ∀ l, t.LeadsThrough path l →
        entry? (t.set (t.target path) (.file text.toUTF8)) l = t.entry? l :=
      fun l hl => (hset l).trans (if_neg (hthrough l hl))
    have hleads : (t.set (t.target path) (.file text.toUTF8)).locate path = t.locate path :=
      locate_congr rfl hsame
    refine ⟨rfl, ?_, hfile, hentry, fun l hl => ?_, fun l hl _ => (hset l).trans (if_neg hl)⟩
    · rw [Tree.readText, hleads, hlocate]
      simp only [hfile, fromUTF8?_toUTF8]
    · have hdirectory : t.entry? l = some .directory := by simpa [isDirectory] using hway l hl
      exact ⟨(hsame l hl).trans hdirectory, .inr hdirectory⟩

/-! ## Writing a text -/

/-- What is different after directories were added and a file was created. -/
lemma AddsDirectories.written {path text : String}
    (h : AddsDirectories t t' (t.LeadsThrough path)) (h' : Written t' t'' path text) :
    Written t t'' path text := by
  have htarget := target_congr h.workingDirectory path
  have hthrough := leadsThrough_congr h.workingDirectory path
  refine ⟨h'.workingDirectory.trans h.workingDirectory, h'.readText, htarget ▸ h'.file, ?_,
    fun l hl => ?_, fun l hl hl' => ?_⟩
  · intro hdirectory
    rcases h.entries (t.target path) with heq | ⟨hnone, -⟩
    · exact h'.replaced (htarget ▸ heq.trans hdirectory)
    · rw [hnone] at hdirectory
      cases hdirectory
  · obtain ⟨hnew, hold⟩ := h'.directories l ((hthrough l).mpr hl)
    refine ⟨hnew, ?_⟩
    rcases h.entries l with heq | ⟨hnone, -⟩
    · exact heq ▸ hold
    · exact .inl hnone
  · rw [h'.others l (htarget ▸ hl) (mt (hthrough l).mp hl')]
    exact (h.entries l).resolve_right fun hnew => hl' hnew.2.2

/-- **What writing a text changes.** Either the text is in its file and directories lead to it, or
there is a fault of making a directory or creating a file. Nothing else is different but, in both
cases, directories on the way to the file that were missing. -/
theorem writeText_cases (t : Tree) (path text : String) :
    ((t.writeText path text).1 = .ok () ∧ Written t (t.writeText path text).2 path text) ∨
      ∃ fault, (t.writeText path text).1 = .error fault ∧ fault.action.writes ∧
        AddsDirectories t (t.writeText path text).2 (t.LeadsThrough path) := by
  have hparents := t.addsDirectories_makeParents path
  unfold writeText
  split
  next fault t' h =>
    rw [h] at hparents
    exact .inr ⟨fault, rfl, by rw [action_of_makeParents h]; rfl, hparents⟩
  next t' h =>
    rw [h] at hparents
    split
    next t'' h' => exact .inl ⟨rfl, hparents.written (written_createFile h')⟩
    next fault h' =>
      exact .inr ⟨fault, rfl, by rw [action_of_createFile h']; rfl, hparents⟩

example : (empty.writeText "a/../b/c" "x").2.entries =
    [(["a"], .directory), (["b"], .directory), (["b", "c"], .file "x".toUTF8)] := by
  decide +kernel

-- A text that is not written may leave a directory behind.
example : (empty.writeText "a/b/" "x").1.isOk = false ∧
    (empty.writeText "a/b/" "x").2.entries = [(["a"], .directory)] := by
  decide +kernel

/-! ## Where a text can be written -/

/-- A text can be written where a path leads to. -/
def IsWritable (t : Tree) (path : String) : Prop :=
  ∃ text, (t.writeText path text).1 = .ok ()

/-- A file is created or not whatever it is to hold. -/
lemma createFile_eq_ok_iff (path text : String) :
    (∃ t', t.createFile path text = .ok t') ↔ ∃ location, t.locateFile path = .ok location := by
  unfold createFile
  cases t.locateFile path <;> simp

/-- A text is written if the directories that lead to its file can be made and a file may be created
there. -/
lemma writeText_eq_ok_iff (path text : String) :
    (t.writeText path text).1 = .ok () ↔ (t.makeParents path).1 = .ok () ∧
      ∃ location, (t.makeParents path).2.locateFile path = .ok location := by
  rw [writeText, ← createFile_eq_ok_iff path text]
  rcases t.makeParents path with ⟨_ | _, t'⟩
  · simp
  · cases hcreate : t'.createFile path text <;> simp [hcreate]

/-- Where a text can be written, every text can. -/
theorem IsWritable.writeText {path : String} (h : t.IsWritable path) (text : String) :
    (t.writeText path text).1 = .ok () ∧ Written t (t.writeText path text).2 path text := by
  obtain ⟨other, hother⟩ := h
  have hok := (writeText_eq_ok_iff path text).mpr ((writeText_eq_ok_iff path other).mp hother)
  rcases t.writeText_cases path text with hwritten | ⟨fault, herror, -⟩
  · exact hwritten
  · rw [hok] at herror
    cases herror

end Tree

end RegisterFile.Files

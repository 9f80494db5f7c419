import Mathlib.Data.List.Infix
import RegisterFile.Proofs.Files.Rewriting

set_option autoImplicit false

/-!
# Well-formed trees

In a file tree as there are any, everything lies in directories. Writing a text keeps a tree so,
even if it fails: a directory is made, and a file is created, where names have led through
directories.

## Main definitions

* `Files.Tree.WellFormed` - everything in a tree lies in directories.
* `Files.Tree.IsReached` - directories lead to a location.

## Main results

* `Files.Tree.WellFormed.set` - a tree stays well-formed if something is put where directories lead.
* `Files.Tree.WellFormed.writeText` - a tree stays well-formed if a text is written.
-/

namespace RegisterFile.Files.Tree

variable {t t' : Tree}

/-! ## Well-formed trees -/

/-- Everything in a tree lies in directories. Names are no dots, and paths start in a directory. -/
structure WellFormed (t : Tree) : Prop where
  workingDirectory : t.isDirectory t.workingDirectory
  names : ∀ l e, (l, e) ∈ t.entries → ∀ n ∈ l, n ≠ "." ∧ n ≠ ".."
  above : ∀ front name back e, (front ++ name :: back, e) ∈ t.entries → t.isDirectory front

/-- Directories lead to a location, and its names are no dots. -/
structure IsReached (t : Tree) (location : Location) : Prop where
  names : ∀ n ∈ location, n ≠ "." ∧ n ≠ ".."
  above : ∀ front name back, location = front ++ name :: back → t.isDirectory front

/-- Directories lead to every directory of a well-formed tree. -/
lemma WellFormed.isReached_of_isDirectory (h : t.WellFormed) {location : Location}
    (hdirectory : t.isDirectory location) : t.IsReached location := by
  have hentry : t.entry? location = some .directory := of_decide_eq_true hdirectory
  unfold entry? at hentry
  split_ifs at hentry with hroot
  · subst hroot
    exact ⟨nofun, fun front name back hnil => by simp at hnil⟩
  · obtain ⟨before, behind, hentries, -⟩ := List.lookup_eq_some_iff.mp hentry
    have hmem : (location, .directory) ∈ t.entries := by simp [hentries]
    exact ⟨h.names location _ hmem, fun front name back hsplit =>
      h.above front name back _ (hsplit ▸ hmem)⟩

/-- Paths start where directories lead. -/
lemma WellFormed.isReached_start (h : t.WellFormed) (path : String) :
    t.IsReached (t.start path) := by
  refine h.isReached_of_isDirectory ?_
  unfold start
  split_ifs
  · rfl
  · exact h.workingDirectory

/-- A path starts at a place that its names spell from the root. -/
lemma WellFormed.resolve_start (h : t.WellFormed) (path : String) :
    resolve [] (t.start path) = t.start path :=
  resolve_eq_append (h.isReached_start path).names

/-! ## Following names -/

/-- Directories lead to the place that a name leads to from a directory. -/
lemma IsReached.follow {location : Location} (h : t.IsReached location)
    (hdirectory : t.isDirectory location) (name : String) :
    t.IsReached (follow location name) := by
  unfold Files.follow
  split_ifs with hdot hdots
  · exact h
  · refine ⟨fun n hn => h.names n (List.mem_of_mem_dropLast hn), fun front n back hfront => ?_⟩
    obtain ⟨last, hlast⟩ : ∃ last, location = location.dropLast ++ last :=
      List.dropLast_prefix location |>.imp fun _ => Eq.symm
    exact h.above front n (back ++ last) (by rw [hlast, hfront]; simp)
  · refine ⟨fun n hn => ?_, fun front n back hfront => ?_⟩
    · rcases List.mem_append.mp hn with hn | hn
      · exact h.names n hn
      · obtain rfl := List.mem_singleton.mp hn
        exact ⟨hdot, hdots⟩
    · have hprefix : front <+: location ++ [name] := ⟨n :: back, hfront.symm⟩
      rcases List.prefix_concat_iff.mp hprefix with rfl | ⟨between, rfl⟩
      · simp at hfront
      · cases between with
        | nil => rwa [List.append_nil] at hdirectory
        | cons next more => exact h.above front next more rfl

/-- Directories lead to the place that names lead to. -/
lemma isReached_of_walk {names : List String} {location location' : Location}
    (h : t.IsReached location) (hwalk : t.walk location names = .ok location') :
    t.IsReached location' := by
  induction names generalizing location with
  | nil => exact Except.ok.inj hwalk ▸ h
  | cons name names ih =>
    obtain ⟨hdirectory, hrest⟩ := walk_cons_eq_ok hwalk
    exact ih (h.follow hdirectory name) hrest

/-! ## Writing -/

/-- What is bound in a list is set or was bound before. -/
lemma mem_setEntry {location l : Location} {entry e : Entry} {entries : List (Location × Entry)}
    (h : (l, e) ∈ setEntry location entry entries) : l = location ∨ (l, e) ∈ entries := by
  induction entries with
  | nil => exact .inl (Prod.mk.inj (List.mem_singleton.mp h)).1
  | cons first rest ih =>
    unfold setEntry at h
    split_ifs at h with hfirst
    · rcases List.mem_cons.mp h with h | h
      · exact .inl (Prod.mk.inj h).1
      · exact .inr (List.mem_cons_of_mem _ h)
    · rcases List.mem_cons.mp h with h | h
      · exact .inr (h ▸ List.mem_cons_self)
      · exact (ih h).imp_right (List.mem_cons_of_mem _)

/-- **A tree stays well-formed** if something is put where directories lead and none stands. -/
theorem WellFormed.set (h : t.WellFormed) {location : Location} (hreached : t.IsReached location)
    (hvacant : ¬ t.isDirectory location) (entry : Entry) : (t.set location entry).WellFormed := by
  have hroot : location ≠ [] := by
    rintro rfl
    exact hvacant rfl
  have hkeeps : ∀ l, t.isDirectory l → (t.set location entry).isDirectory l := by
    intro l hl
    have hne : l ≠ location := by
      rintro rfl
      exact hvacant hl
    rwa [isDirectory, entry_set hroot, if_neg hne]
  refine ⟨hkeeps _ h.workingDirectory, fun l e hentry => ?_, fun front name back e hentry => ?_⟩
  · rcases mem_setEntry hentry with rfl | hentry
    · exact hreached.names
    · exact h.names l e hentry
  · rcases mem_setEntry hentry with hlocation | hentry
    · exact hkeeps front (hreached.above front name back hlocation.symm)
    · exact hkeeps front (h.above front name back e hentry)

/-- Making the directories that lead to a file keeps a tree well-formed, even if it fails. -/
lemma WellFormed.makeParents (h : t.WellFormed) (path : String) :
    (t.makeParents path).2.WellFormed := by
  have hmade : (t.makeParents path).2.WellFormed ∧
      (t.makeParents path).2.workingDirectory = t.workingDirectory := by
    apply makeParents_induction
      (P := fun u => u.WellFormed ∧ u.workingDirectory = t.workingDirectory)
    · exact ⟨h, rfl⟩
    · rintro u u' front ⟨hu, hstart⟩ - - hmake
      obtain ⟨location, hwalk, hvacant, rfl⟩ := exists_of_makeDirectory hmake
      rw [← start_congr hstart] at hwalk
      refine ⟨hu.set (isReached_of_walk (hu.isReached_start _) hwalk) ?_ _, hstart⟩
      simp [isDirectory, hvacant]
  exact hmade.1

/-- **Writing a text keeps a tree well-formed**, even if it fails. -/
theorem WellFormed.writeText (h : t.WellFormed) (path text : String) :
    (t.writeText path text).2.WellFormed := by
  have hparents := h.makeParents path
  unfold Tree.writeText
  split
  next hmade => rwa [hmade] at hparents
  next u hmade =>
    rw [hmade] at hparents
    unfold createFile
    cases hlocate : u.locateFile path with
    | error obstacle => exact hparents
    | ok location =>
      obtain ⟨hpath, hdirectory⟩ := locateFile_eq_ok hlocate
      exact hparents.set (isReached_of_walk (hparents.isReached_start path) (walk_of_locate hpath))
        hdirectory _

end RegisterFile.Files.Tree

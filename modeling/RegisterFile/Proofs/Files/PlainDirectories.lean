import RegisterFile.Proofs.Files.Searching

set_option autoImplicit false

/-!
# Plain directories

Where neither its path nor its location has a mark of patterns, a template directory holds all files
below it. It is searched like any other nevertheless: the search for its path is one for the stars
that stand behind it, and these select every path.

## Main results

* `Files.Pattern.selects_stars` - stars behind nothing select every path.
* `Files.Tree.find_of_plainDirectory?` - a plain directory is searched like any other.
-/

namespace RegisterFile.Files

/-! ## Stars -/

/-- Every place is reached from a first one if each byte may be passed or stands in front of a place
that has been reached. -/
lemma Places.passManyFrom_eq_replicate {fits marked : UInt8 → Bool}
    (h : ∀ b, fits b || marked b) {arriving here : Bool} (hhere : arriving || here)
    (bytes : List UInt8) :
    passManyFrom fits arriving bytes (here :: bytes.map marked) =
      List.replicate (bytes.length + 1) true := by
  induction bytes generalizing arriving here with
  | nil => simpa [passManyFrom] using hhere
  | cons b bytes ih =>
    simp only [List.map_cons, passManyFrom, hhere, Bool.true_and]
    rw [ih (h b), List.length_cons, List.replicate_succ (n := bytes.length + 1)]

/-- Behind any directories at the start of a path are its start and the places behind slashes. -/
lemma PatternPart.advance_leadingDirectories (bytes : List UInt8) :
    leadingDirectories.advance bytes (.start bytes) =
      true :: bytes.map (decide <| · = slashByte) := by
  have hslashes : List.zipWith (fun here b => here && decide (b = slashByte))
      (List.replicate (bytes.length + 1) true) bytes = bytes.map (decide <| · = slashByte) :=
    List.ext_getElem (by simp) (by simp)
  have hpass : (Places.start bytes).passToSlash bytes =
      false :: bytes.map (decide <| · = slashByte) := by
    rw [Places.passToSlash, Places.passMany, Places.start,
      Places.passManyFrom_eq_replicate (fun _ => rfl) rfl, Places.passSlash, Places.passOne,
      hslashes]
  rw [advance, hpass, Places.start, Places.union, List.zipWith_cons_cons, List.zipWith_map,
    List.zipWith_self]
  rfl

/-- Stars behind nothing are a pattern. -/
lemma Selection.read?_stars : read? "**/*" =
    .ok (some ⟨"**/*", [.leadingDirectories, .anyBytes], false⟩) := by
  cbv

/-- **Stars behind nothing select every path.** The last name of a path starts at its start or
behind a slash, and it has no slash itself. -/
theorem Pattern.selects_stars (path : String) :
    Pattern.selects [.leadingDirectories, .anyBytes] path := by
  unfold selects
  dsimp only
  generalize path.toUTF8.toList = bytes
  have hend : Pattern.advance bytes (.start bytes) [.leadingDirectories, .anyBytes] =
      List.replicate (bytes.length + 1) true := by
    rw [Pattern.advance, Pattern.advance, Pattern.advance, PatternPart.advance_leadingDirectories,
      PatternPart.advance, Places.passMany]
    refine Places.passManyFrom_eq_replicate (fun b => ?_) rfl bytes
    by_cases hb : b = slashByte <;> simp [hb]
  rw [hend, List.getLast?_replicate, if_neg (Nat.succ_ne_zero _)]
  rfl

/-! ## Paths without stars -/

/-- A slash behind a path that does not end in one asks for a directory. -/
lemma names_append_slash {path : String} (h : ¬ endsInSlash path) :
    names (path ++ "/") = names path ++ ["."] := by
  have hpieces : pieces (path ++ "/") = pieces path ++ [""] := by
    rw [pieces, pieces, String.toList_append]
    exact (congrArg (List.map String.ofList) (List.splitOn_append_cons_self ..)).trans
      List.map_append
  have hends : endsInSlash (path ++ "/") := by
    rw [endsInSlash, String.toList_append, List.getLast?_append]
    rfl
  have hwritten : writtenNames (path ++ "/") = writtenNames path := by
    rw [writtenNames, hpieces, List.filter_append, writtenNames]
    exact List.append_nil _
  rw [names, names, hwritten, if_pos hends, if_neg h, List.append_nil]

/-- A plain path has no star. -/
lemma ne_star_of_isPlain {path : String} (h : isPlain path) : ∀ c ∈ path.toList, c ≠ '*' := by
  rintro c hc rfl
  rw [isPlain, Bool.not_eq_true', List.any_eq_false] at h
  exact h _ hc rfl

/-- The path before the first star of a plain path spells the same with the name `.` at its end,
where the path may have it already. -/
lemma exists_names_beforeStar {path : String} (hplain : isPlain path) (hne : path ≠ "") :
    ∃ spelled, names (pathBeforeStar path) = spelled ++ ["."] ∧
      (names path = spelled ∨ names path = spelled ++ ["."]) := by
  rw [(pathBeforeStar_eq (ne_star_of_isPlain hplain)).1, if_congr (or_iff_right hne) rfl rfl]
  split_ifs with hends
  · have hnames : names path = writtenNames path ++ ["."] := by rw [names, if_pos hends]
    exact ⟨writtenNames path, hnames, .inr hnames⟩
  · exact ⟨names path, names_append_slash hends, .inl rfl⟩

namespace Tree

variable {t : Tree} {path : String}

/-- The path before the first star of a plain path starts where the path does. -/
lemma start_beforeStar (t : Tree) (hplain : isPlain path) (hne : path ≠ "") :
    t.start (pathBeforeStar path) = t.start path := by
  rw [(pathBeforeStar_eq (ne_star_of_isPlain hplain)).1]
  split_ifs
  · rfl
  · rw [start, start, isAbsolute_append hne]

/-- A plain path that leads to a directory leads there with a slash behind it, if that does not make
it too long. -/
lemma locate_beforeStar (hplain : isPlain path) {directory : Location}
    (hlocate : t.locate path = .ok directory) (hdirectory : t.isDirectory directory)
    (hcheck : checkPath (pathBeforeStar path) = .ok ()) :
    t.locate (pathBeforeStar path) = .ok directory := by
  have hne := ne_empty_of_locate hlocate
  obtain ⟨spelled, hbefore, hnames⟩ := exists_names_beforeStar hplain hne
  have hentry : t.entry? directory = some .directory := of_decide_eq_true hdirectory
  have hwalk : t.walk (t.start path) (spelled ++ ["."]) = .ok directory := by
    rcases hnames with hnames | hnames
    · rw [walk_append, ← hnames, walk_of_locate hlocate, ok_bind]
      simp only [walk, hentry, if_true]
    · rw [← hnames, walk_of_locate hlocate]
  have hnonempty : pathBeforeStar path ≠ "" := by
    intro hempty
    rw [hempty] at hbefore
    cases spelled <;> cases hbefore
  rw [locate, hcheck, ok_bind, if_neg hnonempty, hbefore, start_beforeStar t hplain hne, hwalk]

/-- The search for a plain directory starts there and asks for everything below it. -/
lemma search_of_plainDirectory? {directory : Location}
    (hplain : t.plainDirectory? path = some directory)
    (hcheck : checkPath (pathBeforeStar path) = .ok ()) :
    t.search path = ⟨directory, directory, "**/*"⟩ := by
  obtain ⟨hpath, hlocate, hdirectory, hnames⟩ := plainDirectory?_eq_some_iff.mp hplain
  have hentry : t.entry? directory = some .directory := of_decide_eq_true hdirectory
  have hbefore : ((t.locate (pathBeforeStar path)).toOption.filter
      fun l => (t.entry? l).isSome) = some directory := by
    rw [locate_beforeStar hpath hlocate hdirectory hcheck]
    simp [Except.toOption, hentry]
  rw [search, (pathBeforeStar_eq (ne_star_of_isPlain hpath)).2]
  simp only [hbefore]
  exact Search.ofNames_of_isPlain directory hnames

/-- **A plain directory is searched like any other.** If its path may be followed with a slash
behind it, and the names of its location from the root, the search selects everything that lies
below. -/
theorem find_of_plainDirectory? {directory : Location}
    (hplain : t.plainDirectory? path = some directory)
    (hcheck : checkPath (pathBeforeStar path) = .ok ())
    (hroot : t.walk [] directory = .ok directory) :
    ∃ selection, t.selection? path = .ok (some selection) ∧
      t.find (t.search path) selection = t.templateFiles path := by
  rw [selection?, search_of_plainDirectory? hplain hcheck]
  refine ⟨_, Selection.read?_stars, ?_⟩
  have hall : ∀ f ∈ t.filesBelow directory,
      (⟨"**/*", [.leadingDirectories, .anyBytes], false⟩ : Selection).includes f.names :=
    fun f _ => Pattern.selects_stars _
  rw [find, hroot]
  simp only [templateFiles, hplain]
  rw [List.filter_eq_self.mpr hall]
  refine mapM_eq_ok_self fun f hf => ?_
  obtain ⟨-, hne, -⟩ := mem_filesBelow_iff.mp hf
  rw [namesBelow?_eq_some_iff.mpr ⟨hne, rfl⟩]

-- In a working directory with braces a plain path is a pattern, which selects nothing here.
example : templateFiles ⟨["a\x7bb\x7d"], [(["a\x7bb\x7d"], .directory),
    (["a\x7bb\x7d", "hdl"], .directory), (["a\x7bb\x7d", "hdl", "x.vhd"], .file .empty)]⟩ "hdl" =
      .ok [] := by
  cbv

end Tree

end RegisterFile.Files

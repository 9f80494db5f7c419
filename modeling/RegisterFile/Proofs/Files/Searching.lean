import Mathlib.Data.List.Infix
import Mathlib.Data.List.TakeWhile
import Mathlib.Tactic.SplitIfs
import RegisterFile.Files.Search
import RegisterFile.Proofs.Files.Walking
import RegisterFile.Proofs.Outcome

set_option autoImplicit false

/-!
# Searching plain directories

Stars, brackets and braces make the path of a template directory a pattern. A path without these
signs asks for all files of the directory that it leads to. It becomes a pattern all the same, which
is told about and has to be one: the path itself where it cannot be followed with a slash at its
end, and otherwise nothing but the stars behind it.

## Main definitions

* `Files.IsLiteral` - a text has none of the signs that make a path a pattern.
* `Files.Tree.HoldsOnly` - a directory has a single file.

## Main results

* `Files.Selection.exists_read?` - texts without brackets and braces are patterns.
* `Files.Tree.exists_selection?` - the pattern for a plain directory can be read.
* `Files.Tree.templateFiles_of_isLiteral` - the files of a plain directory.
* `Files.Tree.HoldsOnly.filesBelow` - the files of a directory with a single one.
-/

namespace RegisterFile.Files

/-! ## Patterns without classes and groups -/

/-- The signs that open or close a class or a group. -/
def bracketSigns : List Char := ['[', '{', '}']

/-- A text has no brackets and braces, and no backslash at its end that would stand in front of
nothing. -/
structure IsBracketFree (cs : List Char) : Prop where
  notMem : ∀ c ∈ cs, c ∉ bracketSigns
  getLast?_ne : cs.getLast? ≠ some '\\'

/-- What is left of a text without brackets has none either. -/
lemma IsBracketFree.suffix (front : List Char) {back : List Char}
    (h : IsBracketFree (front ++ back)) : IsBracketFree back where
  notMem c hc := h.notMem c (List.mem_append_right _ hc)
  getLast?_ne hback := by
    refine h.getLast?_ne ?_
    rw [List.getLast?_append, hback]
    rfl

/-- A reading stands in no class and in no group. -/
structure PatternReading.Outside (r : PatternReading) : Prop where
  openClass : r.openClass = none
  around : r.around = []

namespace PatternReading

variable {r : PatternReading}

/-- A reading that goes on stays outside. -/
lemma Outside.goOn (h : r.Outside) (c : Char) (g : OpenGroup) : (r.goOn c g).Outside :=
  ⟨rfl, h.around⟩

/-- A character that is no bracket and no brace leaves a reading outside. -/
lemma Outside.pass (h : r.Outside) {c : Char} (hc : c ∉ bracketSigns) :
    ∃ g, r.pass c = .ok (r.goOn c g) := by
  simp only [bracketSigns, List.mem_cons, List.not_mem_nil, or_false, not_or] at hc
  obtain ⟨hbracket, hopening, hclosing⟩ := hc
  have hcomma : ¬ (c = ',' ∧ (!r.around.isEmpty) = true) := by simp [h.around]
  unfold PatternReading.pass
  rw [if_neg hbracket, if_neg hopening, if_neg hclosing, if_neg hcomma]
  by_cases hany : c = '?'
  · exact ⟨_, if_pos hany⟩
  · exact ⟨_, if_neg hany⟩

/-- **A text without brackets can be read.**

**Proof sketch.** Induction along the reading. It stays outside of classes and groups, so nothing is
left open, and what is left to read has no brackets. -/
lemma Outside.exists_read (h : r.Outside) {cs : List Char} (hcs : IsBracketFree cs) :
    ∃ pattern, r.read cs = .ok pattern := by
  fun_induction PatternReading.read r cs with
  | case1 r =>
    refine ⟨r.group.current, ?_⟩
    rw [finish, h.openClass, h.around]
    rfl
  | case2 r c cs k hclass => exact absurd (h.openClass.symm.trans hclass) nofun
  | case3 r c cs k hclass => exact absurd (h.openClass.symm.trans hclass) nofun
  | case4 r => exact absurd rfl hcs.getLast?_ne
  | case5 r _ c cs ih => exact ih (h.goOn _ _) (hcs.suffix ['\\', c])
  | case6 r _ g slash cs _ hstars ih =>
    simp only [hstars]
    exact ih (h.goOn _ _) (hcs.suffix ['*', '*', slash])
  | case7 r _ g ends cs hother _ hstars ih =>
    simp only [hstars]
    exact ih (h.goOn _ _) (hcs.suffix ['*', '*'])
  | case8 r _ cs _ _ ih => exact ih (h.goOn _ _) (hcs.suffix ['*'])
  | case9 r c cs _ _ _ r' hpass ih =>
    obtain ⟨g, hg⟩ := h.pass (hcs.notMem c List.mem_cons_self)
    obtain rfl : r.goOn c g = r' := Except.ok.inj (hg.symm.trans hpass)
    exact ih (h.goOn _ _) (hcs.suffix [c])
  | case10 r c cs _ _ _ fault hpass =>
    obtain ⟨g, hg⟩ := h.pass (hcs.notMem c List.mem_cons_self)
    exact absurd (hg.symm.trans hpass) nofun

end PatternReading

/-- The rest of a signed text is a pattern if it has no brackets. -/
lemma Selection.exists_ofSigned (whole : String) (excludes : Bool) {rest : List Char}
    (h : IsBracketFree rest) : ∃ selection, ofSigned whole excludes rest = .ok selection := by
  have hstart : PatternReading.start.Outside := ⟨rfl, rfl⟩
  obtain ⟨pattern, hpattern⟩ := hstart.exists_read h
  have hread : Pattern.read (String.ofList rest) = .ok pattern := by
    rwa [Pattern.read, String.toList_ofList]
  refine ⟨some ⟨String.ofList rest, pattern, excludes⟩, ?_⟩
  rw [ofSigned]
  simp only [hread]

/-- **A text without brackets selects something** or is a remark, whatever sign it starts with. -/
theorem Selection.exists_read? {whole : String} (h : IsBracketFree whole.toList) :
    ∃ selection, read? whole = .ok selection := by
  unfold read?
  split
  next => exact ⟨none, rfl⟩
  next rest heq => exact exists_ofSigned whole true ((heq ▸ h).suffix ['!'])
  next rest heq => exact exists_ofSigned whole false ((heq ▸ h).suffix ['\\'])
  next rest heq => exact exists_ofSigned whole false ((heq ▸ h).suffix ['\\'])
  next => exact exists_ofSigned whole false h

/-! ## Plain paths -/

/-- A text has no star, no bracket and no brace. -/
def IsLiteral (s : String) : Prop := ∀ c ∈ s.toList, c ≠ '*' ∧ c ∉ bracketSigns

/-- Whether a text is literal can be decided. -/
instance (s : String) : Decidable (IsLiteral s) :=
  List.decidableBAll (fun c => c ≠ '*' ∧ c ∉ bracketSigns) s.toList

/-- A literal text is no pattern. -/
lemma IsLiteral.isPlain {s : String} (h : IsLiteral s) : isPlain s = true := by
  rw [Files.isPlain, Bool.not_eq_true', List.any_eq_false]
  intro c hc
  obtain ⟨hstar, hbracket⟩ := h c hc
  simp only [bracketSigns, List.mem_cons, List.not_mem_nil, or_false, not_or] at hbracket
  simp [isPatternMark, hstar, hbracket]

/-- Literal texts make up a literal text. -/
lemma IsLiteral.append {s t : String} (hs : IsLiteral s) (ht : IsLiteral t) :
    IsLiteral (s ++ t) := by
  intro c hc
  rw [String.toList_append, List.mem_append] at hc
  exact hc.elim (hs c) (ht c)

/-- A slash is literal. -/
lemma isLiteral_slash : IsLiteral "/" := by decide

/-- A part between two separators is made up of what is divided. -/
lemma mem_of_mem_splitOn {cs part : List Char} {c d : Char} (hpart : part ∈ cs.splitOn d)
    (hc : c ∈ part) : c ∈ cs := by
  induction cs generalizing part with
  | nil =>
    obtain rfl : part = [] := by simpa using hpart
    exact hc
  | cons first rest ih =>
    obtain ⟨next, others, hsplit⟩ := List.exists_cons_of_ne_nil (List.splitOn_ne_nil d rest)
    have hnext : c ∈ next → c ∈ rest := ih (hsplit ▸ List.mem_cons_self)
    have hothers : part ∈ others → c ∈ rest := fun h =>
      ih (hsplit ▸ List.mem_cons_of_mem next h) hc
    rw [List.splitOn_cons_eq_if_modifyHead, hsplit, List.modifyHead_cons] at hpart
    rw [List.mem_cons]
    split at hpart
    · rcases List.mem_cons.mp hpart with rfl | hpart
      · cases hc
      · rcases List.mem_cons.mp hpart with rfl | hpart
        · exact .inr (hnext hc)
        · exact .inr (hothers hpart)
    · rcases List.mem_cons.mp hpart with rfl | hpart
      · exact (List.mem_cons.mp hc).imp_right hnext
      · exact .inr (hothers hpart)

/-- The names in a literal path are literal. -/
lemma IsLiteral.of_mem_writtenNames {path name : String} (h : IsLiteral path)
    (hname : name ∈ writtenNames path) : IsLiteral name := by
  intro c hc
  obtain ⟨part, hpart, rfl⟩ := List.mem_map.mp (List.mem_of_mem_filter hname)
  rw [String.toList_ofList] at hc
  exact h c (mem_of_mem_splitOn hpart hc)

/-- The names that a literal path consists of are literal. -/
lemma IsLiteral.of_mem_names {path name : String} (h : IsLiteral path)
    (hname : name ∈ names path) : IsLiteral name := by
  have hdot : IsLiteral "." := by decide
  rw [names, List.mem_append] at hname
  rcases hname with hname | hname
  · exact h.of_mem_writtenNames hname
  · split at hname
    · rwa [List.mem_singleton.mp hname]
    · cases hname

/-- A name of a location that names spell is one of them, or one of the location that they start
from. -/
lemma mem_of_mem_resolve {location : Location} {names : List String} {name : String}
    (h : name ∈ resolve location names) : name ∈ location ∨ name ∈ names := by
  induction names generalizing location with
  | nil => exact .inl h
  | cons first rest ih =>
    rw [List.mem_cons]
    rcases ih h with h | h
    · unfold follow at h
      split_ifs at h
      · exact .inl h
      · exact .inl (List.mem_of_mem_dropLast h)
      · rw [List.mem_append, List.mem_singleton] at h
        exact h.imp_right .inl
    · exact .inr (.inr h)

/-- A literal path leads to literal names, if it starts from such names. -/
lemma IsLiteral.of_mem_location {t : Tree} {path name : String} {location : Location}
    (hpath : IsLiteral path) (hstart : ∀ n ∈ t.start path, IsLiteral n)
    (hlocate : t.locate path = .ok location) (hname : name ∈ location) : IsLiteral name := by
  obtain ⟨rfl, -⟩ := Tree.locate_eq_ok hlocate
  exact (mem_of_mem_resolve hname).elim (hstart name) hpath.of_mem_names

/-! ## Searches -/

/-- A path without stars is the path before the first star, with a slash behind it if it needs
one. -/
lemma pathBeforeStar_eq {path : String} (h : ∀ c ∈ path.toList, c ≠ '*') :
    pathBeforeStar path = (if path = "" ∨ endsInSlash path then path else path ++ "/") ∧
      patternFromStar path = "**/*" := by
  have hstar : ∀ c ∈ (if path = "" ∨ endsInSlash path then path else path ++ "/").toList,
      decide (c ≠ '*') = true := by
    split
    · exact fun c hc => decide_eq_true (h c hc)
    · intro c hc
      rw [String.toList_append, List.mem_append] at hc
      rcases hc with hc | hc
      · exact decide_eq_true (h c hc)
      · obtain rfl := List.mem_singleton.mp hc
        decide
  unfold pathBeforeStar patternFromStar
  dsimp only
  rw [List.takeWhile_eq_self_iff.mpr hstar, List.dropWhile_eq_nil_iff.mpr hstar]
  exact ⟨String.ofList_toList, rfl⟩

/-- A literal path has no star. A slash behind it, if it needs one, changes neither that nor where
it starts. -/
lemma pathBeforeStar_of_isLiteral {path : String} (h : IsLiteral path) :
    IsLiteral (pathBeforeStar path) ∧ isAbsolute (pathBeforeStar path) = isAbsolute path ∧
      patternFromStar path = "**/*" := by
  obtain ⟨hbefore, hpattern⟩ := pathBeforeStar_eq fun c hc => (h c hc).1
  rw [hbefore]
  split
  · exact ⟨h, rfl, hpattern⟩
  next hends =>
    exact ⟨h.append isLiteral_slash, isAbsolute_append fun hempty => hends (.inl hempty), hpattern⟩

/-- A literal text with stars behind it has no brackets. -/
lemma IsLiteral.isBracketFree {s : String} (h : IsLiteral s) :
    IsBracketFree (s ++ "**/*").toList where
  notMem c hc := by
    rw [String.toList_append, List.mem_append] at hc
    rcases hc with hc | hc
    · exact (h c hc).2
    · have hstars : "**/*".toList.all (· ∉ bracketSigns) = true := by decide
      exact of_decide_eq_true (List.all_eq_true.mp hstars c hc)
  getLast?_ne := by
    have hstars : "**/*".toList.getLast? = some '*' := by decide +kernel
    rw [String.toList_append, List.getLast?_append, hstars, Option.some_or]
    decide

/-- The pattern behind plain names is that behind none. -/
lemma Search.ofNames_of_isPlain (directory : List String) {names : List String}
    (h : ∀ n ∈ names, isPlain n) :
    Search.ofNames directory (names ++ leadingNames "**/*") = ⟨directory, names, "**/*"⟩ := by
  have hbase : (leadingNames "**/*").takeWhile isPlain = [] := by decide +kernel
  have hstars : "/".intercalate ((leadingNames "**/*").dropWhile isPlain) = "**/*" := by
    decide +kernel
  rw [Search.ofNames, List.takeWhile_append_of_pos h, List.dropWhile_append_of_pos h, hbase,
    List.append_nil, hstars]

/-- The pattern for a plain directory is literal up to the stars behind it. Only where the path
cannot be followed with a slash at its end does it stand in the pattern. -/
lemma Tree.exists_pattern_search {t : Tree} {path : String} (hpath : IsLiteral path)
    (hstart : ∀ n ∈ t.start path, IsLiteral n) :
    ∃ s, IsLiteral s ∧ (t.search path).pattern = s ++ "**/*" := by
  obtain ⟨hbefore, habsolute, hrest⟩ := pathBeforeStar_of_isLiteral hpath
  have hempty : IsLiteral "" := fun c hc => absurd hc List.not_mem_nil
  have hstart' : t.start (pathBeforeStar path) = t.start path := by
    rw [start, start, habsolute]
  unfold search
  simp only [hrest]
  generalize pathBeforeStar path = before at hbefore hstart'
  cases hlocation : (t.locate before).toOption.filter fun l => (t.entry? l).isSome with
  | some location =>
    obtain ⟨hlocate, -⟩ := Option.filter_eq_some_iff.mp hlocation
    rw [toOption_eq_some_iff] at hlocate
    refine ⟨"", hempty, ?_⟩
    exact congrArg Search.pattern <| Search.ofNames_of_isPlain location fun n hn =>
      (hbefore.of_mem_location (hstart' ▸ hstart) hlocate hn).isPlain
  | none =>
    by_cases habsolute : isAbsolute before
    · simp only [if_pos habsolute]
      exact ⟨"", hempty, congrArg Search.pattern <| Search.ofNames_of_isPlain _ fun n hn =>
        (hbefore.of_mem_writtenNames (List.mem_of_mem_filter hn)).isPlain⟩
    · simp only [if_neg habsolute]
      have hslash : IsLiteral (if before = "" ∨ endsInSlash before then "" else "/") := by
        split
        · exact hempty
        · exact isLiteral_slash
      exact ⟨_, hbefore.append hslash, rfl⟩

/-- **The pattern for a plain directory can be read.** -/
theorem Tree.exists_selection? {t : Tree} {path : String} (hpath : IsLiteral path)
    (hstart : ∀ n ∈ t.start path, IsLiteral n) :
    ∃ selection, t.selection? path = .ok selection := by
  obtain ⟨s, hs, hpattern⟩ := t.exists_pattern_search hpath hstart
  rw [selection?, hpattern]
  exact Selection.exists_read? hs.isBracketFree

/-- A plain directory is one that a path without marks leads to through names without marks. -/
lemma Tree.plainDirectory?_eq_some_iff {t : Tree} {path : String} {directory : Location} :
    t.plainDirectory? path = some directory ↔ isPlain path ∧ t.locate path = .ok directory ∧
      t.isDirectory directory ∧ ∀ n ∈ directory, isPlain n := by
  unfold plainDirectory?
  split_ifs with hpath
  · rw [Option.filter_eq_some_iff, toOption_eq_some_iff, Bool.and_eq_true, List.all_eq_true,
      and_iff_right hpath]
  · exact iff_of_false nofun fun h => hpath h.1

/-- **The files of a plain directory** are those that lie below it. -/
theorem Tree.templateFiles_of_isLiteral {t : Tree} {path : String} {location : Location}
    (hpath : IsLiteral path) (hstart : ∀ n ∈ t.start path, IsLiteral n)
    (hlocate : t.locate path = .ok location) (hdirectory : t.isDirectory location) :
    t.templateFiles path = .ok (t.filesBelow location) := by
  have hplain : t.plainDirectory? path = some location :=
    plainDirectory?_eq_some_iff.mpr ⟨hpath.isPlain, hlocate, hdirectory,
      fun n hn => (hpath.of_mem_location hstart hlocate hn).isPlain⟩
  simp only [templateFiles, hplain]

/-! ## A single file -/

/-- What lies below a location are the locations that start with it. -/
lemma namesBelow?_eq_some_iff {above location : Location} {names : List String} :
    Tree.namesBelow? above location = some names ↔ names ≠ [] ∧ location = above ++ names := by
  fun_induction Tree.namesBelow? above location with
  | case1 =>
    rw [List.nil_append]
    exact iff_of_false nofun fun h => h.1 h.2.symm
  | case2 name others =>
    rw [List.nil_append, Option.some.injEq]
    exact ⟨fun h => ⟨h ▸ List.cons_ne_nil name others, h⟩, fun h => h.2⟩
  | case3 a above => exact iff_of_false nofun fun h => nomatch h.2
  | case4 above name others ih => rw [ih, List.cons_append, List.cons.injEq, and_iff_right rfl]
  | case5 a above name others hne =>
    rw [List.cons_append, List.cons.injEq]
    exact iff_of_false nofun fun h => hne h.2.1.symm

/-- What is found below a location are the files that lie there. -/
lemma Tree.mem_filesBelow_iff {t : Tree} {location : Location} {f : FoundFile} :
    f ∈ t.filesBelow location ↔ (f.location, .file f.content) ∈ t.entries ∧
      f.names ≠ [] ∧ f.location = location ++ f.names := by
  rw [filesBelow, List.mem_filterMap, ← namesBelow?_eq_some_iff]
  constructor
  · rintro ⟨⟨l, e⟩, hentry, hfound⟩
    cases e with
    | directory => cases hfound
    | file content =>
      cases hnames : namesBelow? location l with
      | none => simp [hnames] at hfound
      | some names =>
        obtain rfl : ⟨names, l, content⟩ = f := by simpa [hnames] using hfound
        exact ⟨hentry, hnames⟩
  · rintro ⟨hentry, hnames⟩
    exact ⟨_, hentry, by simp [hnames]⟩

/-- The directory at a location holds one file and no other, where `names` lead to from there. -/
structure Tree.HoldsOnly (t : Tree) (location : Location) (names : List String)
    (content : ByteArray) : Prop where
  isDirectory : t.isDirectory location
  names_ne_nil : names ≠ []
  mem_entries : (location ++ names, .file content) ∈ t.entries
  eq_of_mem : ∀ others content', others ≠ [] → (location ++ others, .file content') ∈ t.entries →
    others = names ∧ content' = content

/-- What is found in a directory with a single file is this file. -/
theorem Tree.HoldsOnly.filesBelow {t : Tree} {location : Location} {names : List String}
    {content : ByteArray} (h : t.HoldsOnly location names content) :
    ∃ count, t.filesBelow location =
      List.replicate (count + 1) ⟨names, location ++ names, content⟩ := by
  have hsame : ∀ f ∈ t.filesBelow location, f = ⟨names, location ++ names, content⟩ := by
    rintro ⟨others, l, content'⟩ hf
    obtain ⟨hentry, hothers, hl⟩ := mem_filesBelow_iff.mp hf
    obtain rfl : l = location ++ others := hl
    obtain ⟨rfl, rfl⟩ := h.eq_of_mem others content' hothers hentry
    rfl
  have hmem : ⟨names, location ++ names, content⟩ ∈ t.filesBelow location :=
    mem_filesBelow_iff.mpr ⟨h.mem_entries, h.names_ne_nil, rfl⟩
  obtain ⟨count, hcount⟩ := Nat.exists_eq_add_one.mpr (List.length_pos_of_mem hmem)
  exact ⟨count, List.eq_replicate_iff.mpr ⟨hcount, hsame⟩⟩

end RegisterFile.Files

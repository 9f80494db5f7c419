import Mathlib.Tactic.SplitIfs
import RegisterFile.Files.Tree
import RegisterFile.Proofs.Outcome

set_option autoImplicit false

/-!
# Where paths lead

The names of a path spell a location, whatever stands in the tree. Following the path leads to this
location or nowhere, and on the way there are directories only.

## Main definitions

* `Files.resolve` - the location that names spell.
* `Files.Tree.target` - the location that a path spells.
* `Files.Tree.LeadsThrough` - the locations on the way to it.

## Main results

* `Files.Tree.walk_eq_ok` - following names leads to the location that they spell.
* `Files.Tree.walk_congr` - following names depends on the places on the way only.
* `Files.Tree.leadsThrough_of_parent` - the way to the directory that a path lies in is a part of
  the way to the path's end.
-/

namespace RegisterFile.Files

/-! ## Locations -/

/-- The location that a name leads to. -/
def follow (location : Location) (name : String) : Location :=
  if name = "." then location
  else if name = ".." then location.dropLast
  else location ++ [name]

/-- The location that names spell. -/
def resolve (location : Location) (names : List String) : Location :=
  names.foldl follow location

/-- Names that all lead further down. -/
lemma resolve_eq_append {location : Location} {names : List String}
    (h : ∀ n ∈ names, n ≠ "." ∧ n ≠ "..") : resolve location names = location ++ names := by
  induction names generalizing location with
  | nil => exact (List.append_nil location).symm
  | cons first rest ih =>
    obtain ⟨hdot, hdots⟩ := h first List.mem_cons_self
    rw [resolve, List.foldl_cons, follow, if_neg hdot, if_neg hdots]
    exact (ih fun n hn => h n (List.mem_cons_of_mem _ hn)).trans (by simp)

/-- The location that names spell one after another. -/
@[simp] lemma resolve_append (location : Location) (front back : List String) :
    resolve location (front ++ back) = resolve (resolve location front) back :=
  List.foldl_append

/-- The name `.` adds nothing to a location. -/
lemma resolve_filter_dot (location : Location) (names : List String) :
    resolve location (names.filter (· ≠ ".")) = resolve location names := by
  induction names generalizing location with
  | nil => rfl
  | cons first rest ih =>
    by_cases hdot : first = "."
    · rw [List.filter_cons_of_neg (by simpa using hdot), ih, resolve, resolve, List.foldl_cons,
        follow, if_pos hdot]
    · rw [List.filter_cons_of_pos (by simpa using hdot)]
      exact ih _

namespace Tree

/-- The location that a path spells. -/
def target (t : Tree) (path : String) : Location :=
  resolve (t.start path) (names path)

/-- A path leads through the locations that its names spell up to one of them. -/
def LeadsThrough (t : Tree) (path : String) (location : Location) : Prop :=
  ∃ front name back,
    names path = front ++ name :: back ∧ location = resolve (t.start path) front

/-! ## Following names -/

variable {t t' : Tree}

/-- A name can be followed from a directory only, and leads to the location that it spells. -/
lemma walk_cons_eq_ok {location location' : Location} {name : String} {names : List String}
    (h : t.walk location (name :: names) = .ok location') :
    t.isDirectory location ∧ t.walk (follow location name) names = .ok location' := by
  unfold walk at h
  cases hentry : t.entry? location with
  | none => simp [hentry] at h
  | some entry =>
    cases entry with
    | file content => simp [hentry] at h
    | directory =>
      simp only [hentry] at h
      refine ⟨by simp [isDirectory, hentry], ?_⟩
      unfold follow
      split at h
      next hdot => rwa [if_pos hdot]
      next hdot =>
        rw [if_neg hdot]
        split at h
        next hdots => rwa [if_pos hdots]
        next hdots =>
          rw [if_neg hdots]
          split at h
          · cases h
          · exact h

/-- Names that can be followed lead to the location that they spell, through directories. -/
theorem walk_eq_ok {names : List String} {location location' : Location}
    (h : t.walk location names = .ok location') :
    location' = resolve location names ∧
      ∀ front name back, names = front ++ name :: back →
        t.isDirectory (resolve location front) := by
  induction names generalizing location with
  | nil =>
    refine ⟨(Except.ok.inj h).symm, fun front name back hnames => ?_⟩
    simp at hnames
  | cons first rest ih =>
    obtain ⟨hdirectory, hrest⟩ := walk_cons_eq_ok h
    obtain ⟨hend, hway⟩ := ih hrest
    refine ⟨hend, fun front name back hnames => ?_⟩
    cases front with
    | nil => exact hdirectory
    | cons _ front =>
      obtain ⟨rfl, rfl⟩ := List.cons.inj hnames
      exact hway front name back rfl

/-- Following names depends on the places on the way only. -/
theorem walk_congr {names : List String} {location : Location}
    (h : ∀ front name back, names = front ++ name :: back →
      t'.entry? (resolve location front) = t.entry? (resolve location front)) :
    t'.walk location names = t.walk location names := by
  induction names generalizing location with
  | nil => rfl
  | cons first rest ih =>
    have hrest : t'.walk (follow location first) rest = t.walk (follow location first) rest :=
      ih fun front name back hnames => h (first :: front) name back (by rw [hnames]; rfl)
    have hfirst : t'.entry? location = t.entry? location := h [] first rest rfl
    unfold walk
    rw [hfirst]
    unfold follow at hrest
    split
    · rfl
    · rfl
    · split
      next hdot => rwa [if_pos hdot] at hrest
      next hdot =>
        rw [if_neg hdot] at hrest
        split
        next hdots => rwa [if_pos hdots] at hrest
        next hdots => rw [if_neg hdots] at hrest; rw [hrest]

/-- Names are followed one part after another. -/
lemma walk_append (location : Location) (front back : List String) :
    t.walk location (front ++ back) = t.walk location front >>= fun l => t.walk l back := by
  induction front generalizing location with
  | nil => rfl
  | cons first rest ih =>
    rw [List.cons_append, walk, walk]
    cases t.entry? location with
    | none => rfl
    | some entry =>
      cases entry with
      | file content => rfl
      | directory =>
        dsimp only
        split_ifs
        · exact ih _
        · exact ih _
        · rfl
        · exact ih _

/-- The names of a path that can be followed are followed. -/
lemma walk_of_locate {path : String} {location : Location} (h : t.locate path = .ok location) :
    t.walk (t.start path) (names path) = .ok location := by
  obtain ⟨⟨⟩, -, hwalk⟩ := bind_eq_ok_iff.mp h
  split at hwalk
  · cases hwalk
  · exact hwalk

/-- The empty path leads nowhere. -/
lemma ne_empty_of_locate {path : String} {location : Location}
    (h : t.locate path = .ok location) : path ≠ "" := by
  rintro rfl
  cases h

/-- A path that can be followed leads to its target, through directories. -/
lemma locate_eq_ok {path : String} {location : Location} (h : t.locate path = .ok location) :
    location = t.target path ∧ ∀ l, t.LeadsThrough path l → t.isDirectory l := by
  obtain ⟨hend, hway⟩ := walk_eq_ok (walk_of_locate h)
  refine ⟨hend, ?_⟩
  rintro _ ⟨front, name, back, hnames, rfl⟩
  exact hway front name back hnames

/-- Where a path starts depends on the working directory only. -/
lemma start_congr (h : t'.workingDirectory = t.workingDirectory) (path : String) :
    t'.start path = t.start path := by
  rw [start, start, h]

/-- The location that a path spells depends on where it starts only. -/
lemma target_congr (h : t'.workingDirectory = t.workingDirectory) (path : String) :
    t'.target path = t.target path := by
  rw [target, target, start_congr h]

/-- The locations on the way depend on where a path starts only. -/
lemma leadsThrough_congr (h : t'.workingDirectory = t.workingDirectory) (path : String)
    (l : Location) : t'.LeadsThrough path l ↔ t.LeadsThrough path l := by
  rw [LeadsThrough, LeadsThrough, start_congr h]

/-- Where a path leads to depends on where it starts and on the places on the way only. -/
lemma locate_congr {path : String} (hstart : t'.workingDirectory = t.workingDirectory)
    (h : ∀ l, t.LeadsThrough path l → t'.entry? l = t.entry? l) :
    t'.locate path = t.locate path := by
  have hwalk : t'.walk (t.start path) (names path) = t.walk (t.start path) (names path) :=
    walk_congr fun front name back hnames => h _ ⟨front, name, back, hnames, rfl⟩
  rw [locate, locate, start_congr hstart, hwalk]

end Tree

/-! ## The directory that a path lies in -/

/-- No part between two separators holds one. -/
lemma notMem_of_mem_splitOn {cs : List Char} {c : Char} {part : List Char}
    (h : part ∈ cs.splitOn c) : c ∉ part := by
  induction cs generalizing part with
  | nil =>
    obtain rfl : part = [] := by simpa using h
    simp
  | cons d ds ih =>
    rw [List.splitOn_cons_eq_if_modifyHead] at h
    split at h
    · rcases List.mem_cons.mp h with rfl | h
      · simp
      · exact ih h
    next hne =>
      obtain ⟨first, others, hsplit⟩ :=
        List.exists_cons_of_ne_nil (List.splitOn_ne_nil c ds)
      rw [hsplit, List.modifyHead_cons] at h
      rcases List.mem_cons.mp h with rfl | h
      · have hfirst : c ∉ first := ih (by simp [hsplit])
        have hdc : d ≠ c := by simpa using hne
        simp [hfirst, hdc.symm]
      · exact ih (by simp [hsplit, h])

/-- No piece of a path holds a slash. -/
lemma slash_notMem_of_mem_pieces {path piece : String} (h : piece ∈ pieces path) :
    '/' ∉ piece.toList := by
  obtain ⟨part, hpart, rfl⟩ := List.mem_map.mp h
  rw [String.toList_ofList]
  exact notMem_of_mem_splitOn hpart

/-- A path is its pieces with slashes between them. -/
lemma intercalate_pieces (path : String) : "/".intercalate (pieces path) = path := by
  apply String.toList_injective
  rw [String.toList_intercalate, pieces, List.map_map]
  have hlist : String.toList ∘ String.ofList = id := funext fun _ => String.toList_ofList
  rw [hlist, List.map_id]
  exact List.intercalate_splitOn '/'

/-- Pieces with slashes between them are the pieces of the path that they make up. -/
lemma pieces_intercalate {ps : List String} (hne : ps ≠ [])
    (hslash : ∀ p ∈ ps, '/' ∉ p.toList) : pieces ("/".intercalate ps) = ps := by
  rw [pieces, String.toList_intercalate]
  have hsplit : (['/'].intercalate (ps.map String.toList)).splitOn '/' = ps.map String.toList :=
    List.splitOn_intercalate '/' (by simpa using hslash) (by simpa using hne)
  change (List.splitOn '/' (['/'].intercalate _)).map _ = _
  rw [hsplit, List.map_map]
  simp

/-- A path whose last piece is a name does not end in a slash. -/
lemma endsInSlash_intercalate {front : List String} {last : String} (hname : last ≠ "")
    (hslash : '/' ∉ last.toList) : endsInSlash ("/".intercalate (front ++ [last])) = false := by
  obtain ⟨before, hbefore⟩ :
      ∃ before, "/".intercalate (front ++ [last]) = before ++ last := by
    cases front with
    | nil => exact ⟨"", by simp⟩
    | cons p ps =>
      refine ⟨"/".intercalate (p :: ps) ++ "/", ?_⟩
      rw [String.intercalate_append_of_ne_nil (by simp) (by simp), String.intercalate_singleton]
  have hlist : last.toList ≠ [] := by simpa using hname
  rw [endsInSlash, hbefore, String.toList_append, List.getLast?_append,
    List.getLast?_eq_some_getLast hlist, Option.some_or]
  simp only [beq_eq_false_iff_ne, ne_eq, Option.some.injEq]
  exact fun h => hslash (h ▸ List.getLast_mem hlist)

/-- The pieces that are left of a path's pieces for the directory it lies in. -/
def keptPieces (ps : List String) : List String :=
  (((ps.reverse.dropWhile isIdle).drop 1).dropWhile isIdle).reverse

/-- The first piece behind idle ones is a name. -/
lemma ne_empty_of_dropWhile_isIdle {ps more : List String} {name : String}
    (h : ps.dropWhile isIdle = name :: more) : name ≠ "" := by
  have hhead := List.head?_dropWhile_not isIdle ps
  rw [h] at hhead
  rintro rfl
  simp [isIdle] at hhead

/-- Unless nothing is left, the pieces that are left end in a name, and behind them at least one
name is gone. -/
lemma keptPieces_cases (ps : List String) :
    keptPieces ps = [] ∨ ∃ front last between name behind,
      keptPieces ps = front ++ [last] ∧
        ps = front ++ [last] ++ (between ++ name :: behind) ∧ last ≠ "" ∧ name ≠ "" := by
  unfold keptPieces
  cases hname : ps.reverse.dropWhile isIdle with
  | nil => exact .inl rfl
  | cons name rest =>
    rw [List.drop_one, List.tail_cons]
    cases hlast : rest.dropWhile isIdle with
    | nil => exact .inl rfl
    | cons last front =>
      refine .inr ⟨front.reverse, last, (rest.takeWhile isIdle).reverse, name,
        (ps.reverse.takeWhile isIdle).reverse, by simp, ?_,
        ne_empty_of_dropWhile_isIdle hlast, ne_empty_of_dropWhile_isIdle hname⟩
      have hrest : rest = rest.takeWhile isIdle ++ last :: front := by
        rw [← hlast, List.takeWhile_append_dropWhile]
      have hps : ps.reverse = ps.reverse.takeWhile isIdle ++ name :: rest := by
        rw [← hname, List.takeWhile_append_dropWhile]
      calc ps = (ps.reverse.takeWhile isIdle ++ name ::
              (rest.takeWhile isIdle ++ last :: front)).reverse := by
            rw [← hrest, ← hps, List.reverse_reverse]
        _ = _ := by simp

/-- The first piece of a path from the root is empty. -/
lemma pieces_of_isAbsolute {path : String} (h : isAbsolute path) :
    pieces path = "" :: (pieces path).drop 1 := by
  obtain ⟨cs, hcs⟩ : ∃ cs, path.toList = '/' :: cs := by
    rwa [isAbsolute, beq_iff_eq, List.head?_eq_some_iff] at h
  rw [pieces, hcs, List.splitOn_cons_eq_if_modifyHead]
  rfl

/-- The directory that a path lies in is the working directory, the root, or spelled by a part of
the path's pieces behind which a name is gone. -/
lemma parent_cases (path : String) :
    parent path = "" ∨ parent path = "/" ∨ ∃ front last between name behind,
      parent path = "/".intercalate (front ++ [last]) ∧
        pieces path = front ++ [last] ++ (between ++ name :: behind) ∧ last ≠ "" ∧ name ≠ "" := by
  have hparent : parent path = (if isAbsolute path then "/" else "") ++
      "/".intercalate (keptPieces (if isAbsolute path then (pieces path).drop 1
        else pieces path)) := rfl
  rw [hparent]
  cases habsolute : isAbsolute path with
  | false =>
    simp only [Bool.false_eq_true, if_false, String.empty_append]
    rcases keptPieces_cases (pieces path) with
      hkept | ⟨front, last, between, name, behind, hkept, h⟩
    · exact .inl (by rw [hkept]; rfl)
    · exact .inr (.inr ⟨front, last, between, name, behind, by rw [hkept], h⟩)
  | true =>
    simp only [if_true]
    rcases keptPieces_cases ((pieces path).drop 1) with
      hkept | ⟨front, last, between, name, behind, hkept, hpieces, h⟩
    · exact .inr (.inl (by rw [hkept]; rfl))
    · refine .inr (.inr ⟨"" :: front, last, between, name, behind, ?_, ?_, h⟩)
      · rw [hkept, List.cons_append, String.intercalate_cons_of_ne_nil (by simp)]
        simp
      · rw [pieces_of_isAbsolute habsolute, hpieces]
        rfl

/-- Whether a path starts at the root is up to its beginning. -/
lemma isAbsolute_append {path rest : String} (h : path ≠ "") :
    isAbsolute (path ++ rest) = isAbsolute path := by
  obtain ⟨c, cs, hcs⟩ : ∃ c cs, path.toList = c :: cs :=
    List.exists_cons_of_ne_nil (by simpa using h)
  rw [isAbsolute, isAbsolute, String.toList_append, hcs]
  rfl

/-- The way to the directory that a path lies in is a part of the way to the path's end, except
that it may lead to the root. -/
theorem Tree.leadsThrough_of_parent (t : Tree) {path : String} {front : List String}
    (hparent : parent path ≠ "") (hfront : front <+: names (parent path)) :
    resolve (t.start (parent path)) front = [] ∨
      t.LeadsThrough path (resolve (t.start (parent path)) front) := by
  rcases parent_cases path with hempty | hroot | ⟨kept, last, between, name, behind, h, hpieces,
    hlast, hname⟩
  · exact absurd hempty hparent
  · rw [hroot] at hfront ⊢
    have hfront : front = [] ∨ front = ["."] := by
      obtain ⟨back, hback⟩ := hfront
      exact List.append_eq_singleton_iff.mp (hback.trans rfl) |>.imp And.left And.left
    rcases hfront with rfl | rfl
    · exact .inl rfl
    · exact .inl rfl
  · have hslash : ∀ p ∈ kept ++ [last], '/' ∉ p.toList := fun p hp =>
      slash_notMem_of_mem_pieces (hpieces ▸ List.mem_append_left _ hp)
    have hnames : names (parent path) = (kept ++ [last]).filter (· ≠ "") := by
      rw [names, writtenNames, h, pieces_intercalate (by simp) hslash,
        endsInSlash_intercalate hlast (hslash last (by simp))]
      simp
    have hstart : t.start (parent path) = t.start path := by
      have hpath : path = parent path ++ ("/" ++ "/".intercalate (between ++ name :: behind)) := by
        rw [h, ← String.append_assoc, ← String.intercalate_append_of_ne_nil (by simp) (by simp),
          ← hpieces, intercalate_pieces]
      rw [start, start, ← isAbsolute_append hparent, ← hpath]
    obtain ⟨back, hback⟩ := hfront
    obtain ⟨next, more, hmore⟩ : ∃ next more,
        back ++ (between ++ name :: behind).filter (· ≠ "") ++
          (if endsInSlash path then ["."] else []) = next :: more :=
      List.exists_cons_of_ne_nil (by simp [hname])
    refine .inr ⟨front, next, more, ?_, by rw [hstart]⟩
    rw [← hmore, names, writtenNames, hpieces, List.filter_append, ← hnames, ← hback]
    simp

end RegisterFile.Files

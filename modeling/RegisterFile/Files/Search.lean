import RegisterFile.Files.Pattern.Reader
import RegisterFile.Files.Tree

set_option autoImplicit false

/-!
# Searching for files

The files that a template directory holds. The path of such a directory may be a pattern, which
selects some of the files below a directory.

A path is a pattern from its first name with a star or a brace on. The names of the files start from
the directory whose path ends before the first star. A pattern that starts with `#` is a remark and
selects nothing. One that starts with `!` excludes files, so nothing is left either. A backslash in
front of one of the two signs takes its meaning away.

## Main definitions

* `Files.SearchFault`, `Files.SearchFault.message` - why a search cannot be made.
* `Files.Selection`, `Files.Selection.read?` - what the text of a pattern selects.
* `Files.Search`, `Files.Tree.search` - where and how a path asks for files.
* `Files.Tree.selection?` - what a template directory selects.
* `Files.Tree.plainDirectory?`, `Files.Tree.templateFiles` - the directory that a path leads to
  without patterns, and the files that a template directory holds.
-/

namespace RegisterFile.Files

/-! ## Faults -/

/-- Why a search cannot be made. -/
inductive SearchFault where
  /-- The text is no pattern. -/
  | malformed (text : String) (cause : PatternFault)
  /-- The pattern selects a file that does not lie in the directory that names start from. -/
  | fileOutside
  deriving DecidableEq, Repr

/-- The wording of a fault. -/
def SearchFault.message : SearchFault → String
  | .malformed text cause =>
    "GlobError(Glob \x7b glob: Some(" ++ quoteText text ++ "), err: " ++ quoteText cause.message ++
      " \x7d)"
  | .fileOutside => "StripPrefixError(())"

/-! ## Selections -/

/-- What the text of a pattern selects. -/
structure Selection where
  /-- The text without the sign in front of it. -/
  text : String
  pattern : Pattern
  /-- Whether the files that the pattern selects are excluded. -/
  excludes : Bool

namespace Selection

/-- What the text `whole` selects, of which `rest` is left when its sign has been cut off. -/
def ofSigned (whole : String) (excludes : Bool) (rest : List Char) :
    Except SearchFault (Option Selection) :=
  let text := String.ofList rest
  match Pattern.read text with
  | .ok pattern => .ok (some ⟨text, pattern, excludes⟩)
  | .error cause => .error (.malformed whole cause)

/-- What a text selects, if it is no remark. -/
def read? (whole : String) : Except SearchFault (Option Selection) :=
  match whole.toList with
  | '#' :: _ => .ok none
  | '!' :: rest => ofSigned whole true rest
  | '\\' :: '!' :: rest => ofSigned whole false ('!' :: rest)
  | '\\' :: '#' :: rest => ofSigned whole false ('#' :: rest)
  | rest => ofSigned whole false rest

/-- Whether the file that some names lead to is selected. -/
def includes (s : Selection) (names : List String) : Bool :=
  !s.excludes && s.pattern.selects ("/".intercalate names)

end Selection

/-! ## Searches -/

/-- Whether a character of a path makes it a pattern. -/
def isPatternMark (c : Char) : Bool :=
  c = '*' || c = '{' || c = '}'

/-- Whether a text is no pattern. -/
def isPlain (s : String) : Bool := !s.toList.any isPatternMark

/-- Where and how a path asks for files. -/
structure Search where
  /-- The names that lead to the directory which the names of the files start from. -/
  directory : List String
  /-- The names that lead to the directory below which files are looked for. -/
  base : List String
  /-- The text of the pattern for the paths from there. -/
  pattern : String

/-- The path of a template directory up to the first star. -/
def pathBeforeStar (path : String) : String :=
  let path := if path = "" ∨ endsInSlash path then path else path ++ "/"
  String.ofList (path.toList.takeWhile (· ≠ '*'))

/-- The pattern for the files of a template directory, from the first star on. -/
def patternFromStar (path : String) : String :=
  let path := if path = "" ∨ endsInSlash path then path else path ++ "/"
  String.ofList (path.toList.dropWhile (· ≠ '*')) ++ "**/*"

/-- The names in a path that lead anywhere. -/
def leadingNames (path : String) : List String :=
  (writtenNames path).filter (· ≠ ".")

/-- The search from the root that is divided where the names become a pattern. -/
def Search.ofNames (directory names : List String) : Search :=
  ⟨directory, names.takeWhile isPlain, "/".intercalate (names.dropWhile isPlain)⟩

/-- What the path of a template directory asks for. Where the path before the first star leads
nowhere it is taken as it is written, and as a pattern if it does not start at the root. -/
def Tree.search (t : Tree) (path : String) : Search :=
  let before := pathBeforeStar path
  let rest := patternFromStar path
  let written := leadingNames before
  match (t.locate before).toOption.filter fun location => (t.entry? location).isSome with
  | some location => .ofNames location (location ++ leadingNames rest)
  | none =>
    if isAbsolute before then .ofNames written (written ++ leadingNames rest)
    else
      let slash := if before = "" ∨ endsInSlash before then "" else "/"
      ⟨t.workingDirectory ++ written, t.workingDirectory, before ++ slash ++ rest⟩

/-- What the path of a template directory selects below the base of its search. -/
def Tree.selection? (t : Tree) (path : String) : Except SearchFault (Option Selection) :=
  Selection.read? (t.search path).pattern

/-- The files that a search for a selection finds. -/
def Tree.find (t : Tree) (s : Search) (selection : Selection) :
    Except SearchFault (List FoundFile) :=
  match t.walk [] s.base with
  | .error _ => .ok []
  | .ok base =>
    ((t.filesBelow base).filter fun f => selection.includes f.names).mapM fun f =>
      match namesBelow? s.directory (s.base ++ f.names) with
      | some names => .ok { f with names }
      | none => .error .fileOutside

/-- The directory that a path leads to, if neither the path nor any name that leads to the directory
from the root is a pattern. -/
def Tree.plainDirectory? (t : Tree) (path : String) : Option Location :=
  if isPlain path then
    (t.locate path).toOption.filter fun location => t.isDirectory location && location.all isPlain
  else none

/-- The files that a template directory holds: those below a plain directory, and otherwise those
that a search finds. -/
def Tree.templateFiles (t : Tree) (path : String) : Except SearchFault (List FoundFile) :=
  match t.plainDirectory? path with
  | some directory => .ok (t.filesBelow directory)
  | none => do
    match ← t.selection? path with
    | none => return []
    | some selection => t.find (t.search path) selection

end RegisterFile.Files

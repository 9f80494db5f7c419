import RegisterFile.Files.Path

set_option autoImplicit false

/-!
# File trees

Files and directories under their locations, and what reading and writing them does.

A path is followed name by name from the root or from the working directory. Every place on the way
has to be a directory; the place where the way ends may be missing. The root itself always is a
directory. Names and paths have a greatest length, and no path holds the character NUL.

## Main definitions

* `Files.Entry`, `Files.Tree` - files and directories, and a tree of them.
* `Files.Fault`, `Files.Fault.messages` - why an action fails.
* `Files.Tree.locate` - the location that a path leads to.
* `Files.Tree.place` - the tree with one more entry.
* `Files.Tree.readText` - the text of a file.
* `Files.Tree.writeText` - the tree with a text in a file and the directories that lead to it.
* `Files.FoundFile`, `Files.Tree.filesBelow` - the files of a directory and of those in it.
-/

namespace RegisterFile.Files

/-! ## Faults -/

/-- What is wrong with a place in a file tree. -/
inductive Obstacle where
  | notFound
  | alreadyExists
  | notADirectory
  | isADirectory
  | nameTooLong
  /-- The bytes of a file are not text. -/
  | notText
  /-- A path holds the character NUL. -/
  | nulInPath
  deriving DecidableEq, Repr

/-- The wording of an obstacle. -/
def Obstacle.message : Obstacle → String
  | .notFound => "No such file or directory (os error 2)"
  | .alreadyExists => "File exists (os error 17)"
  | .notADirectory => "Not a directory (os error 20)"
  | .isADirectory => "Is a directory (os error 21)"
  | .nameTooLong => "File name too long (os error 36)"
  | .notText => "stream did not contain valid UTF-8"
  | .nulInPath => "file name contained an unexpected NUL byte"

/-- What is done to a file or a directory. -/
inductive Action where
  | openFile
  | readFile
  | createDirectory
  | createFile
  deriving DecidableEq, Repr

/-- The wording of an action that fails. -/
def Action.message : Action → String
  | .openFile => "failed to open file"
  | .readFile => "failed to read from file"
  | .createDirectory => "failed to create directory"
  | .createFile => "failed to create file"

/-- An action that fails. -/
structure Fault where
  action : Action
  path : String
  obstacle : Obstacle
  deriving DecidableEq, Repr

/-- The wording of a failed action and of its cause. -/
def Fault.messages (f : Fault) : List String :=
  [s!"{f.action.message} `{f.path}`", f.obstacle.message]

/-! ## Trees -/

/-- The names that lead from the root to a place. -/
abbrev Location := List String

/-- What stands at a location. -/
inductive Entry where
  | file (content : ByteArray)
  | directory

/-- Files are the same if they hold the same bytes. -/
instance : DecidableEq Entry
  | .file a, .file b => decidable_of_iff (a.data = b.data) (by simp [ByteArray.ext_iff])
  | .file _, .directory => isFalse nofun
  | .directory, .file _ => isFalse nofun
  | .directory, .directory => isTrue rfl

/-- A file tree. -/
structure Tree where
  /-- Where paths start that do not start at the root. -/
  workingDirectory : Location
  /-- The files and directories, the root apart. -/
  entries : List (Location × Entry)

/-- A file found below a directory. -/
structure FoundFile where
  /-- The names that lead to it from the directory. -/
  names : List String
  location : Location
  content : ByteArray

/-- Bind `location` to `entry`, at the place of its earlier binding if there is one. -/
def setEntry (location : Location) (entry : Entry) :
    List (Location × Entry) → List (Location × Entry)
  | [] => [(location, entry)]
  | (l, e) :: rest =>
    if l = location then (location, entry) :: rest else (l, e) :: setEntry location entry rest

namespace Tree

/-- The tree with nothing but its root. -/
def empty : Tree := ⟨[], []⟩

/-- What stands at a location. -/
def entry? (t : Tree) (location : Location) : Option Entry :=
  if location = [] then some .directory else t.entries.lookup location

/-- Whether a directory stands at a location. -/
def isDirectory (t : Tree) (location : Location) : Bool :=
  t.entry? location = some .directory

/-- The tree with `entry` at a location. -/
def set (t : Tree) (location : Location) (entry : Entry) : Tree :=
  { t with entries := setEntry location entry t.entries }

/-- The tree with a directory at every place on the way from `above` to `entry`. -/
def placeBelow (t : Tree) (above : Location) (entry : Entry) : List String → Tree
  | [] => t.set above entry
  | name :: names =>
    let t := if above = [] ∨ t.isDirectory above then t else t.set above .directory
    t.placeBelow (above ++ [name]) entry names

/-- The tree with `entry` at a location, and with directories on the way to it. -/
def place (t : Tree) (location : Location) (entry : Entry) : Tree :=
  t.placeBelow [] entry location

/-! ## Following paths -/

/-- The greatest number of bytes in a name. -/
def longestName : Nat := 255

/-- The greatest number of bytes in a path. -/
def longestPath : Nat := 4095

/-- What is wrong with a path whatever there is in the tree. -/
def checkPath (path : String) : Except Obstacle Unit :=
  if path.toList.any (·.toNat = 0) then .error .nulInPath
  else if longestPath < path.utf8ByteSize then .error .nameTooLong
  else .ok ()

/-- Follow names from a location. -/
def walk (t : Tree) (location : Location) : List String → Except Obstacle Location
  | [] => .ok location
  | name :: names =>
    match t.entry? location with
    | none => .error .notFound
    | some (.file _) => .error .notADirectory
    | some .directory =>
      if name = "." then t.walk location names
      else if name = ".." then t.walk location.dropLast names
      else if longestName < name.utf8ByteSize then .error .nameTooLong
      else t.walk (location ++ [name]) names

/-- Where a path starts. -/
def start (t : Tree) (path : String) : Location :=
  if isAbsolute path then [] else t.workingDirectory

/-- The location that a path leads to. The empty path leads nowhere. -/
def locate (t : Tree) (path : String) : Except Obstacle Location := do
  checkPath path
  if path = "" then .error .notFound else t.walk (t.start path) (names path)

/-- Whether a path leads to a file. -/
def isFile (t : Tree) (path : String) : Bool :=
  match t.locate path with
  | .ok location =>
    match t.entry? location with
    | some (.file _) => true
    | _ => false
  | .error _ => false

/-! ## Reading -/

/-- The text of the file that a path leads to. -/
def readText (t : Tree) (path : String) : Except Fault String :=
  match t.locate path with
  | .error obstacle => .error ⟨.openFile, path, obstacle⟩
  | .ok location =>
    match t.entry? location with
    | none => .error ⟨.openFile, path, .notFound⟩
    | some .directory => .error ⟨.readFile, path, .isADirectory⟩
    | some (.file content) =>
      match String.fromUTF8? content with
      | some text => .ok text
      | none => .error ⟨.readFile, path, .notText⟩

/-- The names that lead from the directory `above` to a location below it. -/
def namesBelow? : (above location : Location) → Option (List String)
  | [], [] => none
  | [], name :: names => some (name :: names)
  | _ :: _, [] => none
  | a :: above, name :: names => if a = name then namesBelow? above names else none

/-- What stands below a location, each entry under the path that leads to it from there. -/
def entriesBelow (t : Tree) (location : Location) : List (String × Entry) :=
  t.entries.filterMap fun (l, e) =>
    (namesBelow? location l).map fun names => ("/".intercalate names, e)

/-- The files of the directory at a location and of the directories in it. -/
def filesBelow (t : Tree) (location : Location) : List FoundFile :=
  t.entries.filterMap fun (l, e) =>
    match e, namesBelow? location l with
    | .file content, some names => some ⟨names, l, content⟩
    | _, _ => none

/-! ## Writing -/

/-- The tree with a new directory where the names lead from `start`. -/
def makeDirectory (t : Tree) (start : Location) (names : List String) : Except Obstacle Tree := do
  let location ← t.walk start names
  match t.entry? location with
  | some _ => .error .alreadyExists
  | none => return t.set location .directory

/-- Whether the names lead from `start` to a directory. -/
def leadsToDirectory (t : Tree) (start : Location) (names : List String) : Bool :=
  match t.walk start names with
  | .ok location => t.isDirectory location
  | .error _ => false

/-- Accept a directory that cannot be made because it is there. -/
def acceptDirectory (t : Tree) (start : Location) (names : List String) (obstacle : Obstacle) :
    Except Obstacle Unit :=
  if t.leadsToDirectory start names then .ok () else .error obstacle

/-- Make the directory where the names lead from `start`, given last name first, and those on the
way to it. Directories that were made before an obstacle stay. -/
def makeDirectories (t : Tree) (start : Location) :
    (reversed : List String) → Except Obstacle Unit × Tree
  | [] => (.ok (), t)
  | name :: above =>
    let names := (name :: above).reverse
    match t.makeDirectory start names with
    | .ok t' => (.ok (), t')
    | .error .notFound =>
      match t.makeDirectories start above with
      | (.error obstacle, t') => (.error obstacle, t')
      | (.ok (), t') =>
        match t'.makeDirectory start names with
        | .ok t'' => (.ok (), t'')
        | .error obstacle => (t'.acceptDirectory start names obstacle, t')
    | .error obstacle => (t.acceptDirectory start names obstacle, t)

/-- Whether the last name in a path leads to the place it stands in or to the one above. -/
def endsInDots (path : String) : Bool :=
  match (writtenNames path).getLast? with
  | some name => name = "." || name = ".."
  | none => false

/-- The location of a file that may be written: no directory stands there, and the path asks for
none. -/
def locateFile (t : Tree) (path : String) : Except Obstacle Location := do
  if endsInSlash path ∧ !endsInDots path then
    checkPath path
    let _ ← t.walk (t.start path) ((writtenNames path).dropLast ++ ["."])
    .error .isADirectory
  else
    let location ← t.locate path
    if t.isDirectory location then .error .isADirectory else return location

/-- The tree with a file that holds `text`; the directory it lies in exists. -/
def createFile (t : Tree) (path text : String) : Except Fault Tree :=
  match t.locateFile path with
  | .ok location => .ok (t.set location (.file text.toUTF8))
  | .error obstacle => .error ⟨.createFile, path, obstacle⟩

/-- Make the directory that a path lies in and those on the way to it. -/
def makeParents (t : Tree) (path : String) : Except Fault Unit × Tree :=
  let directory := parent path
  if directory = "" then (.ok (), t)
  else
    match checkPath directory with
    | .error obstacle => (.error ⟨.createDirectory, directory, obstacle⟩, t)
    | .ok () =>
      match t.makeDirectories (t.start directory) (names directory).reverse with
      | (.ok (), t') => (.ok (), t')
      | (.error obstacle, t') => (.error ⟨.createDirectory, directory, obstacle⟩, t')

/-- The tree with a file that holds `text` and with the directories that lead to it. -/
def writeText (t : Tree) (path text : String) : Except Fault Unit × Tree :=
  match t.makeParents path with
  | (.error fault, t') => (.error fault, t')
  | (.ok (), t') =>
    match t'.createFile path text with
    | .ok t'' => (.ok (), t'')
    | .error fault => (.error fault, t')

end Tree

end RegisterFile.Files

import RegisterFile.CommandLine.Run

set_option autoImplicit false

/-!
# The program

The files that a command names are read into a file tree, the command is run on it, and what it
changed is written back.

## Main definitions

* `CommandLine.Command.paths` - the files that a command looks at.
* `CommandLine.survey` - the file tree around them.
* `CommandLine.writeChanges` - write back what differs.
-/

namespace RegisterFile.CommandLine

open Files (Entry Location Tree)

/-! ## What a command looks at -/

/-- The files that a command looks at. -/
def Command.paths : Command → List String
  | .generate declaration output _ _ => declaration :: output.toList
  | .plan declaration _ _ => [declaration]
  | .listRegisters declaration _ => [declaration]
  | .sample => []

/-- The template directory that a command looks at. -/
def Command.templateDirectory? : Command → Option String
  | .generate _ _ _ template => template.map Prod.fst
  | _ => none

/-! ## Reading -/

/-- The path that leads to a location from the root. -/
def pathOf (location : Location) : String :=
  "/" ++ "/".intercalate location

/-- Add what stands at a location to a tree. -/
def addEntry (t : Tree) (location : Location) : IO Tree := do
  let place := (← IO.currentDir) / pathOf location
  if location.isEmpty then return t
  else if ← place.isDir then return t.set location .directory
  else if ← place.pathExists then return t.set location (.file (← IO.FS.readBinFile place))
  else return t

/-- Add what stands on the way from a location along the given names; the end of the way is returned
as well. -/
def addWay (t : Tree) (location : Location) : List String → IO (Tree × Location)
  | [] => return (t, location)
  | name :: names => do
    let next :=
      if name = "." then location
      else if name = ".." then location.dropLast
      else location ++ [name]
    addWay (← addEntry t next) next names

/-- Add everything below a location. -/
partial def addBelow (t : Tree) (location : Location) : IO Tree := do
  let place := (← IO.currentDir) / pathOf location
  if ← place.isDir then
    let mut below := t
    for found in ← place.readDir do
      let next := location ++ [found.fileName]
      below ← addBelow (← addEntry below next) next
    return below
  else
    return t

/-- The file tree around the files that a command looks at. -/
def survey (command : Command) : IO Tree := do
  let (root, here) ← addWay .empty [] (Files.names (← IO.currentDir).toString)
  let mut t : Tree := { root with workingDirectory := here }
  for path in command.paths do
    t := (← addWay t (t.start path) (Files.names path)).1
  match command.templateDirectory? with
  | none => return t
  | some path =>
    let before := Files.pathBeforeStar path
    let (way, _) ← addWay t (t.start before) (Files.names before)
    match way.walk [] (way.search path).base with
    | .ok base => addBelow way base
    | .error _ => return way

/-! ## Writing -/

/-- Write back what differs from the tree `before`. -/
def writeChanges (before after : Tree) : IO Unit := do
  for (location, entry) in after.entries do
    if before.entry? location ≠ some entry then
      match entry with
      | .directory => IO.FS.createDir (pathOf location)
      | .file content => IO.FS.writeBinFile (pathOf location) content

end RegisterFile.CommandLine

open RegisterFile CommandLine in
/-- Run the program on its arguments. -/
def main (arguments : List String) : IO UInt32 := do
  let before ←
    match parse arguments with
    | some invocation => survey invocation.command
    | none => pure .empty
  let report := run before arguments
  writeChanges before report.files
  IO.print report.output
  IO.eprint report.errorOutput
  return UInt32.ofNat report.exitCode

import RegisterFile.Text.Hidden

set_option autoImplicit false

/-!
# Paths

The text of a path and the names it consists of.

Names are divided by slashes. Empty names count for nothing, but a slash at the end of a path asks
for a directory, as the name `.` does.

In a quoted path hidden characters, quotation marks and backslashes are written as escapes, and so
are bytes that spell no character.

## Main definitions

* `Files.isAbsolute`, `Files.endsInSlash`, `Files.names` - the parts of a path.
* `Files.parent` - the path of the directory that a path lies in.
* `Files.quoteText` - a text in quotation marks.
* `Files.DirectoryPath`, `Files.DirectoryPath.quoted` - a path that may not be text, and its quoted
  form.
-/

namespace RegisterFile.Files

/-- The pieces of a path between its slashes. -/
def pieces (path : String) : List String :=
  (path.toList.splitOn '/').map String.ofList

/-- Whether a path starts at the root. -/
def isAbsolute (path : String) : Bool :=
  path.toList.head? == some '/'

/-- Whether a path asks for a directory by the slash at its end. -/
def endsInSlash (path : String) : Bool :=
  path.toList.getLast? == some '/'

/-- The names that stand in a path. -/
def writtenNames (path : String) : List String :=
  (pieces path).filter (· ≠ "")

/-- The names that a path consists of. -/
def names (path : String) : List String :=
  writtenNames path ++ if endsInSlash path then ["."] else []

/-- Whether a piece of a path adds nothing to it. -/
def isIdle (piece : String) : Bool :=
  piece == "" || piece == "."

/-- The path of the directory that a path lies in, empty for a single name. -/
def parent (path : String) : String :=
  let pieces := if isAbsolute path then (pieces path).drop 1 else pieces path
  let kept := (((pieces.reverse.dropWhile isIdle).drop 1).dropWhile isIdle).reverse
  (if isAbsolute path then "/" else "") ++ "/".intercalate kept

/-! ## Quoting -/

/-- A character as it stands between quotation marks. -/
def quoteChar (c : Char) : List Char :=
  if c = '\t' then ['\\', 't']
  else if c = '\r' then ['\\', 'r']
  else if c = '\n' then ['\\', 'n']
  else if c.toNat = 0 then ['\\', '0']
  else if c = '"' ∨ c = '\\' then ['\\', c]
  else if Text.isHidden c then
    '\\' :: 'u' :: Char.ofNat 0x7b :: Nat.toDigits 16 c.toNat ++ [Char.ofNat 0x7d]
  else [c]

/-- A text in quotation marks. -/
def quoteText (s : String) : String :=
  String.ofList ('"' :: s.toList.flatMap quoteChar ++ ['"'])

/-- A byte as two hexadecimal digits in upper case. -/
def byteDigits (b : UInt8) : List Char :=
  let ds := (Nat.toDigits 16 b.toNat).map Char.toUpper
  List.replicate (2 - ds.length) '0' ++ ds

/-- The quoted form of the bytes from `start` on, in at most `steps` steps: characters where the
bytes spell them, otherwise single bytes. -/
def quoteBytes (raw : ByteArray) : (steps start : Nat) → List Char
  | 0, _ => []
  | steps + 1, start =>
    match raw.utf8DecodeChar? start with
    | some c => quoteChar c ++ quoteBytes raw steps (start + c.utf8Size)
    | none =>
      match raw[start]? with
      | some b => '\\' :: 'x' :: byteDigits b ++ quoteBytes raw steps (start + 1)
      | none => []

/-! ## Paths that are not text -/

/-- The path of a directory. -/
inductive DirectoryPath where
  | text (path : String)
  /-- Bytes that are not text. -/
  | bytes (raw : ByteArray)

/-- The path that the given bytes spell. -/
def DirectoryPath.ofBytes (raw : ByteArray) : DirectoryPath :=
  match String.fromUTF8? raw with
  | some path => .text path
  | none => .bytes raw

/-- A path in quotation marks. -/
def DirectoryPath.quoted : DirectoryPath → String
  | .text path => quoteText path
  | .bytes raw => String.ofList ('"' :: quoteBytes raw raw.size 0 ++ ['"'])

end RegisterFile.Files

set_option autoImplicit false

/-!
# Patterns of paths

A pattern selects some of the paths that lead from a directory to what is below it. It looks at the
bytes of such a path, in which slashes stand between the names.

Selecting follows the parts of a pattern from left to right and keeps all the places of the path
that can be reached so far, so its cost grows with the product of both lengths.

## Main definitions

* `Files.PatternPart`, `Files.Pattern` - what a pattern consists of.
* `Files.Places` - the places of a path that have been reached.
* `Files.Pattern.selects` - whether a pattern selects a path.
* `Files.Pattern.looksAtLastName` - whether a pattern looks at nothing but the last name.
-/

namespace RegisterFile.Files

/-- The byte of a slash. -/
def slashByte : UInt8 := 0x2f

/-- A part of a pattern. -/
inductive PatternPart where
  /-- This byte. -/
  | byte (b : UInt8)
  /-- One byte of a name. -/
  | anyByte
  /-- Any bytes of a name. -/
  | anyBytes
  /-- One byte that lies in one of the ranges, or in none of them where `excluded` holds. It can be
  a slash. -/
  | byteOf (excluded : Bool) (ranges : List (UInt8 × UInt8))
  /-- Any directories at the start of a path. -/
  | leadingDirectories
  /-- Any directories between two names. -/
  | directoriesBetween
  /-- Everything below a directory. -/
  | everythingBelow
  /-- One of some patterns, or nothing at all if there are none. -/
  | group (alternatives : List (List PatternPart))

/-- A pattern. -/
abbrev Pattern := List PatternPart

/-! ## Places -/

/-- The places of a path, in front of each byte and at its end: whether each has been reached. -/
abbrev Places := List Bool

namespace Places

/-- The place at the start of a path. -/
def start (bytes : List UInt8) : Places := true :: bytes.map fun _ => false

/-- No place of a path. -/
def nowhere (bytes : List UInt8) : Places := false :: bytes.map fun _ => false

/-- The places of both kinds. -/
def union (first second : Places) : Places := List.zipWith (· || ·) first second

/-- The places one byte further, where the byte is as `fits` demands. -/
def passOne (fits : UInt8 → Bool) (bytes : List UInt8) (reached : Places) : Places :=
  false :: List.zipWith (fun here b => here && fits b) reached bytes

/-- The places any number of bytes further, where each byte is as `fits` demands; `arriving` tells
whether the first place is reached from the one before it. -/
def passManyFrom (fits : UInt8 → Bool) (arriving : Bool) : List UInt8 → Places → Places
  | b :: bytes, here :: reached =>
    let here := arriving || here
    here :: passManyFrom fits (here && fits b) bytes reached
  | [], here :: _ => [arriving || here]
  | _, [] => []

/-- The places any number of bytes further, where each byte is as `fits` demands. -/
def passMany (fits : UInt8 → Bool) (bytes : List UInt8) (reached : Places) : Places :=
  passManyFrom fits false bytes reached

/-- The places behind a slash. -/
def passSlash (bytes : List UInt8) (reached : Places) : Places :=
  passOne (· = slashByte) bytes reached

/-- The places behind the slashes that follow at any distance. -/
def passToSlash (bytes : List UInt8) (reached : Places) : Places :=
  passSlash bytes (passMany (fun _ => true) bytes reached)

end Places

/-! ## Selecting -/

/-- Whether a byte stands for itself in a list of ranges or lies between their ends. -/
def inRanges (ranges : List (UInt8 × UInt8)) (b : UInt8) : Bool :=
  ranges.any fun (first, last) => first ≤ b && b ≤ last

mutual

/-- The places behind a part of a pattern. -/
def PatternPart.advance (bytes : List UInt8) (reached : Places) : PatternPart → Places
  | .byte b => reached.passOne (· = b) bytes
  | .anyByte => reached.passOne (· ≠ slashByte) bytes
  | .anyBytes => reached.passMany (· ≠ slashByte) bytes
  | .byteOf excluded ranges => reached.passOne (fun b => inRanges ranges b != excluded) bytes
  | .leadingDirectories => reached.union (reached.passToSlash bytes)
  | .directoriesBetween =>
    let inside := reached.passSlash bytes
    inside.union (inside.passToSlash bytes)
  | .everythingBelow => (reached.passSlash bytes).passMany (fun _ => true) bytes
  | .group [] => reached
  | .group (pattern :: others) =>
    (Pattern.advance bytes reached pattern).union (Pattern.advanceAny bytes reached others)

/-- The places behind a whole pattern. -/
def Pattern.advance (bytes : List UInt8) (reached : Places) : Pattern → Places
  | [] => reached
  | p :: later => Pattern.advance bytes (p.advance bytes reached) later

/-- The places behind one of some patterns. -/
def Pattern.advanceAny (bytes : List UInt8) (reached : Places) : List Pattern → Places
  | [] => .nowhere bytes
  | pattern :: others =>
    (Pattern.advance bytes reached pattern).union (Pattern.advanceAny bytes reached others)

end

namespace Pattern

/-- Whether a pattern selects a path. -/
def selects (pattern : Pattern) (path : String) : Bool :=
  let bytes := path.toUTF8.toList
  (pattern.advance bytes (.start bytes)).getLast? = some true

/-! ## Last names -/

/-- Whether a part of a pattern is plain and stays inside a name. -/
def staysInName : PatternPart → Bool
  | .byte b => b ≠ slashByte
  | .anyByte => true
  | .anyBytes => true
  | _ => false

/-- Whether a pattern looks at nothing but the last name of a path. -/
def looksAtLastName : Pattern → Bool
  | .leadingDirectories :: p :: later => (p :: later).all staysInName
  | _ => false

end Pattern

end RegisterFile.Files

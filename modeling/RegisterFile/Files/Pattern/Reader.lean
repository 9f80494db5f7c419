import RegisterFile.Files.Pattern.Basic

set_option autoImplicit false

/-!
# Reading patterns

How the text of a pattern is understood.

`*` stands for any bytes of a name, `?` for one of them. A class of bytes stands in brackets, with
`!` or `^` in front if it excludes them, and may hold ranges; a bracket or a minus at its start and
a minus at its end stand for themselves. Braces hold the alternatives of a group, which commas
divide. A backslash takes the meaning from the character behind it. `**` as a whole name stands for
any directories.

Empty alternatives count for nothing. Two stars that are not a whole name are no more than one. A
character of several bytes in a class stands for each of them on its own.

## Main definitions

* `Files.PatternFault`, `Files.PatternFault.message` - why a text is no pattern.
* `Files.OpenClass` - a class of bytes that is being read.
* `Files.OpenGroup` - a group that is being read.
* `Files.Pattern.read` - the pattern that a text spells.
-/

namespace RegisterFile.Files

/-! ## Faults -/

/-- Why a text is no pattern. -/
inductive PatternFault where
  /-- A class is not closed. -/
  | unclosedClass
  /-- The first character of a range comes behind its last one. -/
  | invalidRange (first last : Char)
  /-- A group is not closed. -/
  | unclosedGroup
  /-- A group is closed that has not been opened. -/
  | unopenedGroup
  /-- Nothing stands behind a backslash. -/
  | danglingBackslash
  deriving DecidableEq, Repr

/-- The wording of a fault. -/
def PatternFault.message : PatternFault → String
  | .unclosedClass => "unclosed character class; missing ']'"
  | .invalidRange first last => s!"invalid range; '{first}' > '{last}'"
  | .unclosedGroup =>
    "unclosed alternate group; missing '\x7d' (maybe escape '\x7b' with '[\x7b]'?)"
  | .unopenedGroup =>
    "unopened alternate group; missing '\x7b' (maybe escape '\x7d' with '[\x7d]'?)"
  | .danglingBackslash => "dangling '\\'"

/-! ## Classes -/

/-- The bytes of a character. -/
def charBytes (c : Char) : List UInt8 := c.toString.toUTF8.toList

/-- How much of a class has been read. -/
inductive ClassStage where
  /-- Nothing but the opening bracket. -/
  | opened
  /-- The sign that it excludes its bytes. -/
  | excluding
  /-- Characters or ranges. -/
  | listing
  /-- A minus behind a character or a range. -/
  | ranging
  deriving DecidableEq, Repr

/-- A class of bytes that is being read. -/
structure OpenClass where
  stage : ClassStage
  excluded : Bool
  /-- The ranges between characters that have been read, the last one first. -/
  ranges : List (Char × Char)

/-- The ranges of bytes that a range of characters stands for: from the last byte of its first
character to the first byte of its last one, and each other byte of the two on its own. -/
def byteRanges : Char × Char → List (UInt8 × UInt8)
  | (first, last) =>
    if first = last then (charBytes first).map fun b => (b, b)
    else
      match (charBytes first).reverse, charBytes last with
      | b :: before, c :: after =>
        before.reverse.map (fun b => (b, b)) ++ (b, c) :: after.map fun b => (b, b)
      | _, _ => []

namespace OpenClass

/-- The class of which nothing has been read but its bracket. -/
def empty : OpenClass := ⟨.opened, false, []⟩

/-- Whether no character of a class has been read. -/
def isAtStart (k : OpenClass) : Bool :=
  k.stage = .opened || k.stage = .excluding

/-- Add a character, which is the end of a range behind a minus. -/
def add (k : OpenClass) (c : Char) : Except PatternFault OpenClass :=
  match k.stage, k.ranges with
  | .ranging, (first, _) :: ranges =>
    if c < first then .error (.invalidRange first c)
    else .ok { k with stage := .listing, ranges := (first, c) :: ranges }
  | _, ranges => .ok { k with stage := .listing, ranges := (c, c) :: ranges }

/-- Whether a character closes a class. -/
def isClosedBy (k : OpenClass) (c : Char) : Bool :=
  c = ']' && !k.isAtStart

/-- The class behind one more character that does not close it. -/
def next (k : OpenClass) (c : Char) : Except PatternFault OpenClass :=
  if k.stage = .opened ∧ (c = '!' ∨ c = '^') then
    .ok { k with stage := .excluding, excluded := true }
  else if c = '-' ∧ k.stage = .listing then .ok { k with stage := .ranging }
  else k.add c

/-- The part of a pattern that a closed class is. -/
def close (k : OpenClass) : PatternPart :=
  let ranges := if k.stage = .ranging then ('-', '-') :: k.ranges else k.ranges
  .byteOf k.excluded (ranges.reverse.flatMap byteRanges)

end OpenClass

/-! ## Groups -/

/-- A group that is being read. -/
structure OpenGroup where
  /-- The finished alternatives. -/
  finished : List Pattern
  /-- The parts of the current alternative, the last one first. -/
  parts : List PatternPart

/-- Whether a part of a pattern stands for nothing. -/
def PatternPart.isNothing : PatternPart → Bool
  | .group [] => true
  | _ => false

namespace OpenGroup

/-- The group of which nothing has been read. -/
def empty : OpenGroup := ⟨[], []⟩

/-- Add a part to the current alternative. -/
def add (g : OpenGroup) (p : PatternPart) : OpenGroup := { g with parts := p :: g.parts }

/-- Add a character that stands for itself. -/
def addChar (g : OpenGroup) (c : Char) : OpenGroup :=
  (charBytes c).foldl (fun g b => g.add (.byte b)) g

/-- The current alternative. -/
def current (g : OpenGroup) : Pattern := g.parts.reverse

/-- Start the next alternative. -/
def divide (g : OpenGroup) : OpenGroup := ⟨g.finished ++ [g.current], []⟩

/-- The part of a pattern that a closed group is. -/
def close (g : OpenGroup) : PatternPart :=
  .group ((g.finished ++ [g.current]).filter fun pattern => !pattern.all (·.isNothing))

/-- Put `p` for the part that was added last, unless that stands for everything there already. -/
def absorb (g : OpenGroup) (p : PatternPart) : OpenGroup :=
  match g.parts with
  | .leadingDirectories :: _ => g
  | .everythingBelow :: _ => g
  | _ :: parts => { g with parts := p :: parts }
  | [] => g.add p

/-- Add two stars between the characters `before` and `next`; `inGroup` tells whether the group is
not the whole pattern. The answer tells as well whether `next` is a slash that belongs to them. -/
def addTwoStars (g : OpenGroup) (inGroup : Bool) (before next : Option Char) : OpenGroup × Bool :=
  let opens := before = some ',' ∨ before = some '{'
  let closes := next = some ',' ∨ next = some '}'
  if g.parts.isEmpty then
    if next = none ∨ next = some '/' then (g.add .leadingDirectories, next.isSome)
    else (g.add .anyBytes |>.add .anyBytes, false)
  else if before = some '/' ∨ (inGroup ∧ opens) then
    if next = some '/' then (g.absorb .directoriesBetween, true)
    else if next = none ∨ (inGroup ∧ closes) then (g.absorb .everythingBelow, false)
    else (g.add .anyBytes |>.add .anyBytes, false)
  else (g.add .anyBytes |>.add .anyBytes, false)

end OpenGroup

/-! ## Patterns -/

/-- What is being read at a place of a pattern. -/
structure PatternReading where
  /-- The character before the place. -/
  before : Option Char
  /-- The class that is being read, if there is one. -/
  openClass : Option OpenClass
  /-- The innermost group, or the whole pattern. -/
  group : OpenGroup
  /-- The groups around it, the innermost one first. -/
  around : List OpenGroup

namespace PatternReading

/-- The start of a pattern. -/
def start : PatternReading := ⟨none, none, .empty, []⟩

/-- Go on behind a character with the group `g`. -/
def goOn (r : PatternReading) (c : Char) (g : OpenGroup) : PatternReading :=
  { r with before := some c, openClass := none, group := g }

/-- Go on behind a character inside the class `k`. -/
def inClass (r : PatternReading) (c : Char) (k : OpenClass) : PatternReading :=
  { r with before := some c, openClass := some k }

/-- Go on behind a character that may stand inside a class. -/
def passClass (r : PatternReading) (k : OpenClass) (c : Char) :
    Except PatternFault PatternReading :=
  if k.isClosedBy c then .ok (r.goOn c (r.group.add k.close))
  else (k.next c).map (r.inClass c)

/-- Go on behind a character outside all classes that is neither a star nor a backslash. -/
def pass (r : PatternReading) (c : Char) : Except PatternFault PatternReading :=
  if c = '?' then .ok (r.goOn c (r.group.add .anyByte))
  else if c = '[' then .ok (r.inClass c .empty)
  else if c = '{' then .ok { r.goOn c .empty with around := r.group :: r.around }
  else if c = '}' then
    match r.around with
    | [] => .error .unopenedGroup
    | outer :: around => .ok { r.goOn c (outer.add r.group.close) with around }
  else if c = ',' ∧ !r.around.isEmpty then .ok (r.goOn c r.group.divide)
  else .ok (r.goOn c (r.group.addChar c))

/-- The pattern at its end. -/
def finish (r : PatternReading) : Except PatternFault Pattern :=
  if r.openClass.isSome then .error .unclosedClass
  else if r.around.isEmpty then .ok r.group.current
  else .error .unclosedGroup

/-- The pattern that ends with the given characters. -/
def read (r : PatternReading) : List Char → Except PatternFault Pattern
  | [] => r.finish
  | c :: cs =>
    match r.openClass with
    | some k =>
      match r.passClass k c with
      | .ok r => r.read cs
      | .error fault => .error fault
    | none =>
      if c = '\\' then
        match cs with
        | [] => .error .danglingBackslash
        | c :: cs => (r.goOn c (r.group.addChar c)).read cs
      else if c = '*' then
        match cs with
        | '*' :: cs =>
          match r.group.addTwoStars (!r.around.isEmpty) r.before cs.head?, cs with
          | (g, true), slash :: cs => (r.goOn slash g).read cs
          | (g, _), cs => (r.goOn c g).read cs
        | cs => (r.goOn c (r.group.add .anyBytes)).read cs
      else
        match r.pass c with
        | .ok r => r.read cs
        | .error fault => .error fault

end PatternReading

/-- The pattern that a text spells. -/
def Pattern.read (text : String) : Except PatternFault Pattern :=
  PatternReading.start.read text.toList

end RegisterFile.Files

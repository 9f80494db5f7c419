set_option autoImplicit false

/-!
# Control sequences

Text as a terminal would show it: without control characters and without the sequences that control
a terminal.

A sequence starts with the escape character. What follows tells its kind: a short sequence of a few
characters, a control sequence with parameters, a command that the bell ends, or a block, which may
have a header. Blank control characters, which move to another column or line, are shown, also
inside short and control sequences; what follows them is shown as if outside the sequence, up to the
next character that is not.

A block ends with the terminator byte, also where that is one of the bytes of a character, which
belongs to the block as a whole then. The terminator has no meaning in a header.

## Main definitions

* `Text.ControlState`, `Text.ControlState.next` - the place inside or outside a sequence.
* `Text.ControlState.shows` - whether a character is shown there.
* `Text.withoutControls` - a text without what controls a terminal.
-/

namespace RegisterFile.Text

/-- A place inside or outside a sequence. -/
inductive ControlState where
  /-- Outside all sequences. -/
  | ground
  /-- Behind an escape character. -/
  | escape
  /-- Behind the first character of a short sequence. -/
  | short
  /-- Inside a control sequence. -/
  | control
  /-- Inside a command. -/
  | command
  /-- At the start of the header of a block. -/
  | header
  /-- Behind a parameter in the header of a block. -/
  | parameters
  /-- Behind a sign in the header of a block that no parameter may follow. -/
  | signs
  /-- Inside a block. -/
  | block
  deriving DecidableEq, Repr

namespace ControlState

/-- The place behind the character `n` that follows an escape character. -/
def afterEscape (n : Nat) : ControlState :=
  if 0x20 ≤ n ∧ n ≤ 0x2f then short
  else if n = 0x5b then control
  else if n = 0x5d then command
  else if n = 0x50 then header
  else if n = 0x58 ∨ n = 0x5e ∨ n = 0x5f then block
  else if 0x30 ≤ n ∧ n ≤ 0x7e then ground
  else escape

/-- The place behind the character `n` in the header of a block, where parameters may follow if
`parametersLeft`, and private marks, which come before all parameters, if `marksLeft`. -/
def afterHeader (s : ControlState) (parametersLeft marksLeft : Bool) (n : Nat) : ControlState :=
  if 0x20 ≤ n ∧ n ≤ 0x2f then signs
  else if 0x30 ≤ n ∧ n ≤ 0x3b then if parametersLeft then parameters else block
  else if 0x3c ≤ n ∧ n ≤ 0x3f then if marksLeft then parameters else block
  else if 0x40 ≤ n ∧ n ≤ 0x7e then block
  else s

/-- Whether the terminator is one of the bytes of a character beyond ASCII. -/
def holdsTerminator (c : Char) : Bool :=
  c.toString.toUTF8.toList.contains 0x9c

/-- The place behind a character. -/
def next (s : ControlState) (c : Char) : ControlState :=
  let n := c.toNat
  if n = 0x18 ∨ n = 0x1a then ground
  else if n = 0x1b then escape
  else
    match s with
    | ground => ground
    | escape => afterEscape n
    | short => if 0x30 ≤ n ∧ n ≤ 0x7e then ground else short
    | control => if 0x40 ≤ n ∧ n ≤ 0x7e then ground else control
    | command => if n = 0x07 then ground else command
    | header => afterHeader s true true n
    | parameters => afterHeader s true false n
    | signs => afterHeader s false false n
    | block => if holdsTerminator c then ground else block

/-- Whether a character is shown at a place. -/
def shows (s : ControlState) (c : Char) : Bool :=
  let isBlankControl := c = '\t' || c = '\n' || c.toNat = 0x0c || c = '\r'
  match s with
  | ground => isBlankControl || (0x20 ≤ c.toNat && c.toNat ≠ 0x7f)
  | escape | short | control => isBlankControl
  | command | header | parameters | signs | block => false

end ControlState

/-- What is shown of the characters behind a place. Where `shown` holds the character before them is
shown, and so is everything up to the next character that is not shown outside all sequences. -/
def shownFrom (shown : Bool) (s : ControlState) : List Char → List Char
  | [] => []
  | c :: cs =>
    if shown then
      if ControlState.ground.shows c then
        c :: shownFrom true (if c.toNat < 0x80 then s else .ground) cs
      else shownFrom false (s.next c) cs
    else if s.shows c then c :: shownFrom true (s.next c) cs
    else shownFrom false (s.next c) cs

/-- A text without what controls a terminal. -/
def withoutControls (s : String) : String :=
  String.ofList (shownFrom false .ground s.toList)

end RegisterFile.Text

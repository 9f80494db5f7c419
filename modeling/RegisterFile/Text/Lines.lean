set_option autoImplicit false

/-!
# Lines

The lines of a text and the place where a text ends.

A line ends at a line feed, or at a carriage return and a line feed together; a carriage return
alone ends nothing. A line end at the very end of a text does not start another line, so the empty
text has no line at all.

## Main definitions

* `Text.lines` - the lines of a text, without their ends.
* `Text.Position`, `Text.endPosition` - the line and column of the character after a text.
-/

namespace RegisterFile.Text

/-- A line read backwards, without the carriage return that belongs to its end. -/
def finishLine : List Char → List Char
  | '\r' :: cs => cs.reverse
  | cs => cs.reverse

/-- The lines of a text; `line` holds the characters of the current line so far, last one first. -/
def linesFrom (line : List Char) : List Char → List (List Char)
  | [] => if line.isEmpty then [] else [line.reverse]
  | '\n' :: cs => finishLine line :: linesFrom [] cs
  | c :: cs => linesFrom (c :: line) cs

/-- The lines of a text, without their ends. -/
def lines (cs : List Char) : List (List Char) :=
  linesFrom [] cs

/-- A place in a text; lines and columns count from one. -/
structure Position where
  line : Nat
  column : Nat
  deriving DecidableEq, Repr

/-- The place after a text, on its last line: a line end at the end of the text is passed over. -/
def endPosition (cs : List Char) : Position :=
  match (lines cs).getLast? with
  | some last => ⟨(lines cs).length, last.length + 1⟩
  | none => ⟨1, 1⟩

end RegisterFile.Text

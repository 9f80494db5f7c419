import RegisterFile.Template.Body

set_option autoImplicit false

/-!
# Template tokens

The words, literals and marks that stand inside a tag, up to the delimiter that closes it.

A tag opens with a brace and a mark and closes with the mark and a brace; a minus before the closing
mark asks for the blanks behind the tag to be dropped. Blanks between tokens have no meaning.
Integers fit in 64 bits with a sign. A string stands in quotation marks of one of three kinds and
has no escapes.

A word knows whether a blank stands behind it, because a keyword of the template language is one
only in front of a blank.

## Main definitions

* `Template.Token` - a token.
* `Template.readToken` - the first token of a text.
* `Template.readTag` - the tokens up to the end of a tag.
-/

namespace RegisterFile.Template

/-- A token inside a tag. -/
inductive Token where
  /-- A name, or several joined by dots; `spaced` tells whether a blank stands behind it. -/
  | word (s : String) (spaced : Bool)
  | text (s : String)
  | integer (n : Int)
  | decimal (x : Binary64)
  | bar
  | leftParen
  | rightParen
  | comma
  | assign
  | equals
  deriving DecidableEq, Repr

/-- Whether `c` separates tokens. -/
def isTagBlank (c : Char) : Bool :=
  c == ' ' || c == '\t' || c == '\r' || c == '\n'

/-! ## Words -/

/-- Whether `c` may start a name. -/
def startsName (c : Char) : Bool :=
  c.isAlpha || c == '_'

/-- Whether `c` may stand in a name. -/
def isNameChar (c : Char) : Bool :=
  c.isAlphanum || c == '_'

/-- Read a word from its first character. -/
def readWord (cs : List Char) : Option (Token × List Char) :=
  let isWordChar := fun c => isNameChar c || c == '.'
  let word := String.ofList (cs.takeWhile isWordChar)
  let rest := cs.dropWhile isWordChar
  if (splitPath word).all (· ≠ "") then some (.word word (rest.head?.any isTagBlank), rest)
  else none

/-! ## Literals -/

/-- Read a string up to the closing quotation mark `mark`. -/
def readText (mark : Char) (cs : List Char) : Option (Token × List Char) :=
  match cs.dropWhile (· ≠ mark) with
  | [] => none
  | _ :: rest => some (.text (String.ofList (cs.takeWhile (· ≠ mark))), rest)

/-- Whether an integer fits in 64 bits with a sign. -/
def fitsSignedWord (n : Int) : Bool :=
  Int64.minValue.toInt ≤ n && n ≤ Int64.maxValue.toInt

/-- Read a number without its sign. Only the number zero starts with a zero. -/
def readNumber (negative : Bool) (cs : List Char) : Option (Token × List Char) := do
  let whole := cs.takeWhile Char.isDigit
  let n ← Numeral.value? 10 whole
  if whole.head? = some '0' ∧ whole ≠ ['0'] then none
  else
    match cs.dropWhile Char.isDigit with
    | '.' :: rest =>
      let places := rest.takeWhile Char.isDigit
      let units ← Numeral.valueFrom? 10 n places
      if places.isEmpty then none
      else
        let x := Binary64.nearest negative ⟨units, -(places.length : Int)⟩
        some (.decimal x, rest.dropWhile Char.isDigit)
    | rest =>
      let n : Int := if negative then -(n : Int) else n
      if fitsSignedWord n then some (.integer n, rest) else none

/-! ## Tags -/

/-- Read the first token of a text that does not start with a blank. -/
def readToken : List Char → Option (Token × List Char)
  | [] => none
  | '|' :: cs => some (.bar, cs)
  | '(' :: cs => some (.leftParen, cs)
  | ')' :: cs => some (.rightParen, cs)
  | ',' :: cs => some (.comma, cs)
  | '=' :: '=' :: cs => some (.equals, cs)
  | '=' :: cs => some (.assign, cs)
  | '-' :: cs => readNumber true cs
  | c :: cs =>
    if c = '"' ∨ c = '\'' ∨ c.toNat = 0x60 then readText c cs
    else if c.isDigit then readNumber false (c :: cs)
    else if startsName c then readWord (c :: cs)
    else none

/-- Read the end of a tag whose closing mark is `mark`: whether the blanks behind it are to be
dropped, and what stands behind it. -/
def readTagEnd? (mark : Char) : List Char → Option (Bool × List Char)
  | '-' :: c :: '}' :: rest => if c = mark then some (true, rest) else none
  | c :: '}' :: rest => if c = mark then some (false, rest) else none
  | _ => none

/-- The tokens of a tag, whether the blanks behind it are to be dropped, and what stands behind
it. -/
structure TagReading where
  tokens : List Token
  dropBlanks : Bool
  rest : List Char

/-- Read the tokens of a tag and its end, in at most `steps` steps. Each token has a character and
the end has two, so as many steps as there are characters are enough. -/
def readTag (mark : Char) : (steps : Nat) → List Char → Option TagReading
  | 0, _ => none
  | steps + 1, cs =>
    let cs := cs.dropWhile isTagBlank
    match readTagEnd? mark cs with
    | some (dropBlanks, rest) => some ⟨[], dropBlanks, rest⟩
    | none => do
      let (token, rest) ← readToken cs
      let reading ← readTag mark steps rest
      return { reading with tokens := token :: reading.tokens }

end RegisterFile.Template

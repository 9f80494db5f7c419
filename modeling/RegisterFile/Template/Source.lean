import RegisterFile.Template.Token
import RegisterFile.Text.Blank

set_option autoImplicit false

/-!
# Template sources

The text of a template, cut into literal text and tags and put together as a body.

The language is cut down to what the templates of register files are written in: outputs, loops,
choices between comparisons with `==` that `or` joins, and comments. Templates that include or
extend others, blocks, assignments, macros, raw text, `and`, `not`, the other comparisons, tests and
arithmetic are no part of it, and neither are variables behind brackets: a source that uses one of
them is no template here. A filter may have any name in a source, but only the three filters are
found when it is called.

There are three kinds of tags. An output tag holds an expression. A statement tag starts, divides
or ends a loop or a choice. A comment is passed over. A minus at the start of a tag drops the blanks
before it, one at its end drops the blanks behind it; the comments that a template starts with drop
none.

Words are not reserved: `or` is an operator only behind a whole comparison. A keyword has a blank
behind it. `not` with a blank behind it negates wherever an operand may be negated. A word that goes
on behind a truth value is nothing at all, unless it goes on with the operator `or`.

The tags of loops and choices are paired from the end of the template to its start. The frames that
this builds are the parts that have been closed but not yet opened, each with what stands behind it.

## Main definitions

* `Template.Tag`, `Template.Segment` - tags, and the pieces of a source.
* `Template.segments` - the pieces of a source.
* `Template.assemble` - the body that a sequence of pieces makes up.
* `Template.parse` - the body of a source.
-/

namespace RegisterFile.Template

/-! ## Expressions -/

/-- The words for truth values. -/
def truthWords : List (String × Bool) :=
  [("true", true), ("True", true), ("false", false), ("False", false)]

/-- The operand that a word stands for. -/
def wordOperand? (w : String) : Option Operand :=
  match truthWords.lookup w with
  | some b => some (.literal (.boolean b))
  | none =>
    match truthWords.any fun (t, _) => t.toList.isPrefixOf w.toList with
    | true => none
    | false => some (.reference w)

/-- The operand that a token stands for. -/
def operand? : Token → Option Operand
  | .text s => some (.literal (.text s))
  | .integer n => some (.literal (.integer n))
  | .decimal x => some (.literal (.decimal x))
  | .word w _ => wordOperand? w
  | _ => none

/-- Whether a token negates what stands behind it. -/
def negates : Token → Bool
  | .word w spaced => w = "not" && spaced
  | _ => false

/-- The operand that a token stands for where an operand may be negated. -/
def negatableOperand? (t : Token) : Option Operand :=
  match negates t with
  | true => none
  | false => operand? t

/-- Whether a word is a name without dots. -/
def isName (w : String) : Bool := !w.toList.contains '.'

/-- Arguments with one more in front. A later argument of the same name replaces it. -/
def addArgument (name : String) (o : Operand) (later : List (String × Operand)) :
    List (String × Operand) :=
  if (later.lookup name).isSome then later else (name, o) :: later

/-- The named arguments up to the closing parenthesis, which ends the tokens. -/
def arguments? : List Token → Option (List (String × Operand))
  | [.rightParen] => some []
  | .word name _ :: .assign :: t :: rest => do
    let o ← negatableOperand? t
    let later ←
      match rest with
      | [.rightParen] => some []
      | .comma :: rest => arguments? rest
      | _ => none
    if isName name then some (addArgument name o later) else none
  | _ => none

/-- The filter that a sequence of tokens calls. -/
def filterCall? : List Token → Option FilterCall
  | [.word name _] => if isName name then some ⟨name, []⟩ else none
  | .word name _ :: .leftParen :: rest =>
    if isName name then (arguments? rest).map (⟨name, ·⟩) else none
  | _ => none

/-- The expression that a sequence of tokens stands for, whose operand `read` understands. -/
def expressionWith? (read : Token → Option Operand) (tokens : List Token) : Option Expression :=
  match tokens.splitOn .bar with
  | [t] :: calls => do
    return ⟨← read t, ← calls.mapM filterCall?⟩
  | _ => none

/-- The comparison that a sequence of tokens stands for. -/
def comparison? (tokens : List Token) : Option Comparison :=
  match tokens.splitOn .equals with
  | [left, right] => do
    return ⟨← expressionWith? negatableOperand? left, ← expressionWith? operand? right⟩
  | _ => none

/-- The tokens before the operator `or` that a token ends with, behind the tokens `before`. A truth
value that is compared to may stand in one token with the operator. -/
def beforeOr? (before : List Token) : Token → Option (List Token)
  | .word w true =>
    if w = "or" then some before
    else if before.getLast? = some .equals then
      (truthWords.find? fun (t, _) => w = t ++ "or").map fun (t, _) => before ++ [.word t false]
    else none
  | _ => none

/-- The condition that a sequence of tokens stands for; `before` are the tokens of its first
comparison that come before. -/
def conditionFrom? (before : List Token) : List Token → Option Condition
  | [] => (comparison? before).map ([·])
  | t :: rest =>
    match (beforeOr? before t).bind comparison? with
    | some c => (conditionFrom? [] rest).map (c :: ·)
    | none => conditionFrom? (before ++ [t]) rest

/-- The condition that a sequence of tokens stands for. -/
def condition? (tokens : List Token) : Option Condition :=
  conditionFrom? [] tokens

/-! ## Tags -/

/-- A tag, comments apart. -/
inductive Tag where
  | output (e : Expression)
  | forEach (header : LoopHeader)
  | endForEach
  | choose (condition : Condition)
  | otherwiseIf (condition : Condition)
  | otherwise
  | endChoose

/-- The operand of what a loop runs over, which is no text. -/
def loopOperand? : Token → Option Operand
  | .text _ => none
  | t => operand? t

/-- The header of a loop that binds these names and runs over what the tokens stand for. -/
def loopHeader? (key : Option String) (name : String) (source : List Token) :
    Option LoopHeader := do
  let e ← expressionWith? loopOperand? source
  if isName name ∧ key.all isName then some ⟨key, name, e⟩ else none

/-- The statement tag that a sequence of tokens stands for. -/
def statement? : List Token → Option Tag
  | .word "for" true :: .word name true :: .word "in" true :: source =>
    (loopHeader? none name source).map .forEach
  | .word "for" true :: .word key false :: .comma :: .word name true :: .word "in" true :: source =>
    (loopHeader? (some key) name source).map .forEach
  | [.word "endfor" _] => some .endForEach
  | .word "if" true :: condition => (condition? condition).map .choose
  | .word "elif" true :: condition => (condition? condition).map .otherwiseIf
  | [.word "else" _] => some .otherwise
  | [.word "endif" _] => some .endChoose
  | _ => none

/-! ## Segments -/

/-- A piece of a source. -/
inductive Segment where
  | text (s : String)
  | tag (t : Tag)

/-- Literal text read backwards, without the blanks at its start and end where they are to be
dropped, as a piece unless it is empty. -/
def textSegment (dropStart dropEnd : Bool) (reversed : List Char) : List Segment :=
  let cs := reversed.reverse
  let cs := if dropStart then Text.trimStart cs else cs
  let cs := if dropEnd then Text.trimEnd cs else cs
  if cs.isEmpty then [] else [.text (String.ofList cs)]

/-- Read the minus at the start of a tag, if there is one. -/
def readMinus : List Char → Bool × List Char
  | '-' :: cs => (true, cs)
  | cs => (false, cs)

/-- Read the end of a comment: whether the blanks behind it are to be dropped, and what stands
behind it. -/
def readCommentEnd? : List Char → Option (Bool × List Char)
  | '-' :: '#' :: '}' :: rest => some (true, rest)
  | '#' :: '}' :: rest => some (false, rest)
  | _ => none

/-- Pass over the text of a comment up to its end. -/
def skipComment : List Char → Option (Bool × List Char)
  | [] => none
  | c :: cs => (readCommentEnd? (c :: cs)).or (skipComment cs)

/-- Whether the blanks before and behind a comment are to be dropped, and what stands behind it. -/
structure CommentReading where
  dropEnd : Bool
  dropBlanks : Bool
  rest : List Char

/-- Read a comment from behind its opening mark. Its text is not empty. -/
def readComment? (cs : List Char) : Option CommentReading :=
  let (dropEnd, cs) := readMinus cs
  match readCommentEnd? cs with
  | some _ => none
  | none => (skipComment cs).map fun (dropBlanks, rest) => ⟨dropEnd, dropBlanks, rest⟩

/-- Pass over the comments at the start of a source, at most `steps` of them. -/
def skipComments : (steps : Nat) → List Char → Option (List Char)
  | steps + 1, '{' :: '#' :: cs => do
    let comment ← readComment? cs
    skipComments steps comment.rest
  | _, cs => some cs

/-- The pieces of a source, found in at most `steps` steps; `reversed` is the literal text before
it, last character first, whose blanks at the start are dropped if `dropStart`. -/
def segmentsWithin : (steps : Nat) → (dropStart : Bool) → (reversed : List Char) →
    List Char → Option (List Segment)
  | 0, _, _, _ => none
  | _ + 1, dropStart, reversed, [] => some (textSegment dropStart false reversed)
  | steps + 1, dropStart, reversed, '{' :: '{' :: cs => do
    let (dropEnd, cs) := readMinus cs
    let reading ← readTag '}' steps cs
    let e ← expressionWith? negatableOperand? reading.tokens
    let later ← segmentsWithin steps reading.dropBlanks [] reading.rest
    return textSegment dropStart dropEnd reversed ++ .tag (.output e) :: later
  | steps + 1, dropStart, reversed, '{' :: '%' :: cs => do
    let (dropEnd, cs) := readMinus cs
    let reading ← readTag '%' steps cs
    let t ← statement? reading.tokens
    let later ← segmentsWithin steps reading.dropBlanks [] reading.rest
    return textSegment dropStart dropEnd reversed ++ .tag t :: later
  | steps + 1, dropStart, reversed, '{' :: '#' :: cs => do
    let comment ← readComment? cs
    let later ← segmentsWithin steps comment.dropBlanks [] comment.rest
    return textSegment dropStart comment.dropEnd reversed ++ later
  | steps + 1, dropStart, reversed, c :: cs =>
    segmentsWithin steps dropStart (c :: reversed) cs

/-- The pieces of a source. Every step consumes a character, so the text bounds the steps. -/
def segments (cs : List Char) : Option (List Segment) := do
  let cs ← skipComments cs.length cs
  segmentsWithin (cs.length + 1) false [] cs

/-! ## Bodies -/

/-- What closes a part of a template. -/
inductive Closing where
  /-- The end of the template. -/
  | whole
  /-- The end of a loop. -/
  | loop
  /-- The end of a choice, or a tag that divides it; `no` is the part to be taken if no condition
  before it holds, `last` tells whether nothing divides the choice behind it. -/
  | choice (no : Body) (last : Bool)

/-- A part of a template whose start has not been met yet. -/
structure Frame where
  closing : Closing
  body : Body

/-- Put a piece in front of the frames. -/
def prepend : Segment → List Frame → Option (List Frame)
  | .text s, ⟨closing, body⟩ :: frames => some (⟨closing, .text s body⟩ :: frames)
  | .tag (.output e), ⟨closing, body⟩ :: frames => some (⟨closing, .output e body⟩ :: frames)
  | .tag .endForEach, frames => some (⟨.loop, .done⟩ :: frames)
  | .tag (.forEach header), ⟨.loop, inner⟩ :: ⟨closing, body⟩ :: frames =>
    some (⟨closing, .forEach header inner body⟩ :: frames)
  | .tag .endChoose, frames => some (⟨.choice .done true, .done⟩ :: frames)
  | .tag .otherwise, ⟨.choice _ true, inner⟩ :: frames =>
    some (⟨.choice inner false, .done⟩ :: frames)
  | .tag (.otherwiseIf condition), ⟨.choice no _, inner⟩ :: frames =>
    some (⟨.choice (.choose condition inner no .done) false, .done⟩ :: frames)
  | .tag (.choose condition), ⟨.choice no _, inner⟩ :: ⟨closing, body⟩ :: frames =>
    some (⟨closing, .choose condition inner no body⟩ :: frames)
  | _, _ => none

/-- The frames of a sequence of pieces. -/
def frames? : List Segment → Option (List Frame)
  | [] => some [⟨.whole, .done⟩]
  | s :: later => (frames? later).bind (prepend s)

/-- The body that a sequence of pieces makes up. -/
def assemble (pieces : List Segment) : Option Body :=
  match frames? pieces with
  | some [⟨.whole, body⟩] => some body
  | _ => none

/-- The body of a source, if it is a template. -/
def parse (source : String) : Option Body := do
  assemble (← segments source.toList)

end RegisterFile.Template

import RegisterFile.Template.Value

set_option autoImplicit false

/-!
# Template bodies

What a template consists of once its tags are understood: literal text, places where a value is
put, loops and choices.

## Main definitions

* `Template.Literal`, `Template.Operand` - values that are written down or looked up.
* `Template.FilterCall`, `Template.Expression` - how a value is computed.
* `Template.Comparison`, `Template.Condition` - when a choice is taken.
* `Template.LoopHeader` - what a loop runs over.
* `Template.Body` - a sequence of parts; each part carries what follows it.
-/

namespace RegisterFile.Template

/-! ## Expressions -/

/-- A value that is written down. -/
inductive Literal where
  | text (s : String)
  | integer (n : Int)
  | decimal (x : Binary64)
  | boolean (b : Bool)
  deriving DecidableEq, Repr

/-- A literal as messages describe it. -/
def Literal.describe : Literal → String
  | .text s => "String(" ++ (Value.text s).quote ++ ")"
  | .integer n => "Int(" ++ (Value.integer n).quote ++ ")"
  | .decimal x => "Float(" ++ String.ofList (Binary64.described.write x) ++ ")"
  | .boolean b => "Bool(" ++ (Value.boolean b).quote ++ ")"

/-- A value that is not computed by filters. -/
inductive Operand where
  | literal (l : Literal)
  /-- A variable or, behind dots, a part of it. -/
  | reference (path : String)

/-- A filter with its named arguments. -/
structure FilterCall where
  name : String
  /-- The arguments, each name once. -/
  arguments : List (String × Operand)

/-- An operand that goes through filters, the first one first. -/
structure Expression where
  operand : Operand
  filters : List FilterCall

/-! ## Conditions -/

/-- Two values that are compared for equality. -/
structure Comparison where
  left : Expression
  right : Expression

/-- Comparisons, at least one of which is to hold. -/
abbrev Condition := List Comparison

/-! ## Loops and bodies -/

/-- What a loop runs over and the names that it binds. -/
structure LoopHeader where
  /-- The name of the keys, where the loop is to run over a record. -/
  key : Option String
  /-- The name of the items. -/
  name : String
  source : Expression

/-- A part of a template and everything behind it. -/
inductive Body where
  /-- Nothing is left. -/
  | done
  /-- Literal text. -/
  | text (s : String) (next : Body)
  /-- A value that is put into the output. -/
  | output (e : Expression) (next : Body)
  /-- A part that is repeated for every item of a list, text or record. -/
  | forEach (header : LoopHeader) (body next : Body)
  /-- One of two parts, the first one if the condition holds. -/
  | choose (condition : Condition) (yes no next : Body)

end RegisterFile.Template

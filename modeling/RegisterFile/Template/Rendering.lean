import RegisterFile.Breakdown
import RegisterFile.Template.Body
import RegisterFile.Template.Filter
import RegisterFile.Template.Scope
import RegisterFile.Text.Cluster

set_option autoImplicit false

/-!
# Rendering templates

The text that a template yields where its variables have given values.

Parts are evaluated in the order in which they stand; the first one that fails ends the rendering.
A filter is looked up before its arguments are evaluated. The comparisons of a condition are
evaluated up to the first one that holds.

A loop runs over the items of a list, the clusters of a text, or the fields of a record; only for
the last it binds a key. What it runs over has a name, so it cannot be a literal. Over a text it has
a round for each character, so that clusters of several characters leave the last rounds without an
item.

## Main definitions

* `Template.Fault`, `Template.Fault.messages` - why a part cannot be evaluated.
* `Template.Expression.evaluate`, `Template.Condition.holds` - expressions and conditions.
* `Template.Body.render` - the text of a body.
-/

namespace RegisterFile.Template

/-! ## Faults -/

/-- Why a part of a template cannot be evaluated. -/
inductive Fault where
  /-- No variable of the template has this path. -/
  | unknownVariable (path template : String)
  | unknownFilter (name : String)
  /-- A loop runs over a literal. -/
  | iteratedLiteral (l : Literal)
  /-- A loop runs over a value that has no items. -/
  | notIterable (path : String)
  /-- A loop runs over a record and binds no key. -/
  | keyMissing (path : String)
  /-- A loop binds a key and runs over a value that has none. -/
  | keyUnexpected (path : String)
  /-- A filter refuses its value or an argument. -/
  | refused (cause : FilterFault)
  /-- A fault while a filter is called. -/
  | inFilter (name : String) (cause : Fault)

/-- The wording of a fault and of its causes, outermost first. -/
def Fault.messages : Fault → List String
  | .unknownVariable path template =>
    [s!"Variable `{path}` not found in context while rendering '{template}'"]
  | .unknownFilter name => [s!"Filter '{name}' not found"]
  | .iteratedLiteral l =>
    ["Forloop containers have to be an ident or a function call " ++
      s!"(tried to iterate on '{l.describe}')"]
  | .keyMissing path =>
    [s!"Tried to iterate using key value on variable `{path}`, but it is missing a key"]
  | .keyUnexpected path =>
    [s!"Tried to iterate using key value on variable `{path}`, but it isn't an object/map"]
  | .notIterable path =>
    [s!"Tried to iterate on a container (`{path}`) that has a unsupported type"]
  | .refused cause => [cause.message]
  | .inFilter name cause => s!"Filter call '{name}' failed" :: cause.messages

/-- Why rendering ends without a text. -/
inductive Stop where
  | fault (cause : Fault)
  | brokenOff (cause : Breakdown)

/-- A stop that arises while a filter is called. -/
def Stop.inFilter (name : String) : Stop → Stop
  | .fault cause => .fault (.inFilter name cause)
  | .brokenOff cause => .brokenOff cause

/-- A filter's own stop, while it is called. -/
def FilterStop.inFilter (name : String) : FilterStop → Stop
  | .refused cause => .fault (.inFilter name (.refused cause))
  | .tooWide cause => .brokenOff (.fieldTooWide cause)

/-! ## Expressions -/

/-- The value of a literal. A number beyond all finite ones has none. -/
def Literal.evaluate : Literal → Except Stop Value
  | .text s => .ok (.text s)
  | .integer n => .ok (.integer n)
  | .decimal (.infinite _) => .error (.brokenOff .numberTooLarge)
  | .decimal x => .ok (.decimal x)
  | .boolean b => .ok (.boolean b)

/-- The value of an operand. -/
def Operand.evaluate (template : String) (scope : Scope) : Operand → Except Stop Value
  | .literal l => l.evaluate
  | .reference path =>
    match scope.find? path with
    | .ok (some v) => .ok v
    | .ok none => .error (.fault (.unknownVariable path template))
    | .error _ => .error (.brokenOff .itemMissing)

/-- The arguments of a filter. -/
def evaluateArguments (template : String) (scope : Scope) (arguments : List (String × Operand)) :
    Except Stop Arguments :=
  arguments.mapM fun (name, o) => do
    return (name, ← o.evaluate template scope)

/-- What a filter makes of a value. -/
def FilterCall.apply (template : String) (scope : Scope) (v : Value) (call : FilterCall) :
    Except Stop Value :=
  match filter? call.name with
  | none => .error (.fault (.unknownFilter call.name))
  | some filter => do
    let arguments ←
      (evaluateArguments template scope call.arguments).mapError (Stop.inFilter call.name)
    (filter v arguments).mapError (FilterStop.inFilter call.name)

/-- The value of an expression. -/
def Expression.evaluate (template : String) (scope : Scope) (e : Expression) :
    Except Stop Value := do
  let v ← e.operand.evaluate template scope
  e.filters.foldlM (FilterCall.apply template scope) v

/-- Whether a comparison holds. -/
def Comparison.holds (template : String) (scope : Scope) (c : Comparison) : Except Stop Bool := do
  let left ← c.left.evaluate template scope
  let right ← c.right.evaluate template scope
  return left.equals right

/-- Whether one of the comparisons of a condition holds. -/
def Condition.holds (template : String) (scope : Scope) : Condition → Except Stop Bool
  | [] => .ok false
  | c :: cs => do
    if ← c.holds template scope then return true else Condition.holds template scope cs

/-! ## Loops -/

/-- A round of a loop: its key if it has one, and its item unless that is missing. -/
abbrev LoopRound := Option String × Option Value

/-- The rounds of a loop over a text. -/
def textRounds (s : String) : List LoopRound :=
  let clusters := Text.clusters s
  clusters.map (fun cluster => (none, some (.text cluster))) ++
    List.replicate (s.length - clusters.length) (none, none)

/-- The rounds of a loop over a value, which messages call `path`. -/
def LoopHeader.roundsOf (header : LoopHeader) (path : String) :
    Value → Except Fault (List LoopRound)
  | .list items =>
    if header.key.isSome then .error (.keyUnexpected path)
    else .ok (items.map fun v => (none, some v))
  | .text s =>
    if header.key.isSome then .error (.keyUnexpected path) else .ok (textRounds s)
  | .record fields =>
    if header.key.isSome then .ok (fields.map fun (key, v) => (some key, some v))
    else .error (.keyMissing path)
  | _ => .error (.notIterable path)

/-- The rounds of a loop. -/
def LoopHeader.rounds (template : String) (scope : Scope) (header : LoopHeader) :
    Except Stop (List LoopRound) :=
  match header.source.operand with
  | .literal l => .error (.fault (.iteratedLiteral l))
  | .reference path => do
    let v ← header.source.evaluate template scope
    (header.roundsOf path v).mapError .fault

/-- The loop in each of its rounds. -/
def LoopHeader.loops (header : LoopHeader) (index : Nat) : List LoopRound → List Loop
  | [] => []
  | (key, item) :: later =>
    let named := header.key.bind fun keyName => key.map (keyName, ·)
    ⟨named, header.name, item, index, later.isEmpty⟩ :: header.loops (index + 1) later

/-! ## Bodies -/

/-- The text of a body. -/
def Body.render (template : String) (scope : Scope) : Body → Except Stop String
  | .done => .ok ""
  | .text s next => do
    let rest ← next.render template scope
    return s ++ rest
  | .output e next => do
    let v ← e.evaluate template scope
    let rest ← next.render template scope
    return v.print ++ rest
  | .forEach header body next => do
    let rounds ← header.rounds template scope
    let parts ← (header.loops 0 rounds).mapM fun l => body.render template (scope.enter l)
    let rest ← next.render template scope
    return String.join parts ++ rest
  | .choose condition yes no next => do
    let holds ← Condition.holds template scope condition
    let part ← if holds then yes.render template scope else no.render template scope
    let rest ← next.render template scope
    return part ++ rest

end RegisterFile.Template

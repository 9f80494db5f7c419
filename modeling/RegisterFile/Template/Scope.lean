import RegisterFile.Template.Value

set_option autoImplicit false

/-!
# Scopes

What the names of a template stand for at a place in it: the variables, and the names that the loops
around the place bind.

A path is looked up in the loops first, from the innermost one outwards, and in the variables after
that. A loop that does not know the whole path is passed over, even if it binds its first name. In
every loop `loop` stands for the state of that loop. A loop can have more rounds than items; a path
that starts with the name of an item that is missing cannot be looked up.

## Main definitions

* `Template.Loop`, `Template.Loop.find?` - a loop in one of its rounds, and what it binds.
* `Template.ItemMissing` - why a path cannot be looked up.
* `Template.Scope`, `Template.Scope.find?` - a scope, and what a path stands for in it.
-/

namespace RegisterFile.Template

/-- A loop in one of its rounds. -/
structure Loop where
  /-- The name of the key and the key of the item, where the loop runs over a record. -/
  key : Option (String × String)
  /-- The name of the item. -/
  name : String
  /-- The item, unless there are fewer items than rounds. -/
  item : Option Value
  /-- How many rounds come before this one. -/
  index : Nat
  /-- Whether no round comes behind this one. -/
  isLast : Bool

/-- Why a path cannot be looked up: the item that it starts with is missing. -/
structure ItemMissing where
  deriving DecidableEq, Repr

namespace Loop

/-- A part of the state of a loop. -/
def state? (l : Loop) : List String → Option Value
  | ["index"] => some (.integer (l.index + 1))
  | ["index0"] => some (.integer l.index)
  | ["first"] => some (.boolean (l.index = 0))
  | ["last"] => some (.boolean l.isLast)
  | _ => none

/-- The key of the item, if a path is its name. -/
def findKey? (l : Loop) : List String → Option Value
  | [name] => (l.key.filter fun (keyName, _) => name = keyName).map fun (_, key) => .text key
  | _ => none

/-- What a path stands for in a loop, the name of the key apart. -/
def findItem? (l : Loop) : List String → Except ItemMissing (Option Value)
  | [] => .ok none
  | name :: names =>
    if name = "loop" then .ok (l.state? names)
    else if name = l.name then
      match l.item with
      | some item => .ok (item.select? names)
      | none => .error {}
    else .ok none

/-- What a path stands for in a loop. -/
def find? (l : Loop) (names : List String) : Except ItemMissing (Option Value) :=
  match l.findKey? names with
  | some v => .ok (some v)
  | none => l.findItem? names

end Loop

/-- What the names at a place of a template stand for. -/
structure Scope where
  /-- The loops around the place, the innermost one first. -/
  loops : List Loop
  /-- The variables. -/
  bindings : List (String × Value)

namespace Scope

/-- What a path stands for among the variables. -/
def findVariable? (scope : Scope) : List String → Option Value
  | [] => none
  | name :: names => (scope.bindings.lookup name).bind fun v => v.select? names

/-- What a path stands for. -/
def find? (scope : Scope) (path : String) : Except ItemMissing (Option Value) := do
  let names := splitPath path
  let bound ← scope.loops.findSomeM? (·.find? names)
  return bound.or (scope.findVariable? names)

/-- The scope inside a loop. -/
def enter (scope : Scope) (l : Loop) : Scope := { scope with loops := l :: scope.loops }

end Scope

end RegisterFile.Template

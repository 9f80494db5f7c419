import RegisterFile.Json.Number

set_option autoImplicit false

/-!
# JSON values

## Main definitions

* `Json.Value` - a JSON value; the members of an object keep their order.
* `Json.setMember` - bind a key of an object, in place if it is bound already.
* `Json.member?` - the value that a key is bound to.
-/

namespace RegisterFile.Json

/-- A JSON value. -/
inductive Value where
  | null
  | boolean (b : Bool)
  | number (n : Number)
  | text (s : String)
  | array (items : List Value)
  | object (members : List (String × Value))

/-- The members of an object, in the order of their keys' first appearance. -/
abbrev Members := List (String × Value)

/-- Bind `key` to `value`: at the place of an earlier binding of the same key, which is lost,
otherwise at the end. -/
def setMember (key : String) (value : Value) : Members → Members
  | [] => [(key, value)]
  | (k, v) :: rest => if k = key then (key, value) :: rest else (k, v) :: setMember key value rest

/-- The value that `key` is bound to. -/
def member? (key : String) (members : Members) : Option Value :=
  members.lookup key

/-- A number value without fraction or exponent. -/
def Value.ofNat (n : Nat) : Value := .number (.ofNat n)

/-- The text of a text value. -/
def Value.text? : Value → Option String
  | .text s => some s
  | _ => none

end RegisterFile.Json

import RegisterFile.Binary64.Layout
import RegisterFile.Json.Writer

set_option autoImplicit false

/-!
# Template values

The values that templates compute with: texts, integers, decimals, truth values, lists and records.

A value has two spellings. Its printed form is what a template puts into its output; its quoted form
is compact JSON with the members of records in alphabetic order, which messages show.

Numbers are equal where they are the same as floating-point numbers; a number and another value are
not. All other values are equal where they have equal parts.

## Main definitions

* `Template.Value` - a value.
* `Template.Value.print`, `Template.Value.quote` - the two spellings.
* `Template.Value.equals` - whether two values are equal.
* `Template.Value.select?` - the part of a value that a dotted path leads to.
-/

namespace RegisterFile.Template

open Numeral (digits)

/-! ## Values -/

/-- A value of the template language. -/
inductive Value where
  | text (s : String)
  | integer (n : Int)
  | decimal (x : Binary64)
  | boolean (b : Bool)
  | list (items : List Value)
  /-- Named values, in alphabetic order of their names. -/
  | record (fields : List (String × Value))

/-- The digits of an integer, with a minus if it is negative. -/
def writeInteger : Int → List Char
  | .ofNat n => digits 10 n
  | .negSucc n => '-' :: digits 10 (n + 1)

/-- The spelling of a truth value. -/
def writeBoolean : Bool → List Char
  | true => ['t', 'r', 'u', 'e']
  | false => ['f', 'a', 'l', 's', 'e']

mutual

/-- The characters that a value puts into the output of a template. -/
def Value.write : Value → List Char
  | .text s => s.toList
  | .integer n => writeInteger n
  | .decimal x => Binary64.printed.write x
  | .boolean b => writeBoolean b
  | .list [] => ['[', ']']
  | .list (v :: vs) => '[' :: v.write ++ writeFurther vs ++ [']']
  | .record _ => ['[', 'o', 'b', 'j', 'e', 'c', 't', ']']

/-- The characters of the further items of a list. -/
def writeFurther : List Value → List Char
  | [] => []
  | v :: vs => ',' :: ' ' :: v.write ++ writeFurther vs

end

/-- The text that a value puts into the output of a template. -/
def Value.print (v : Value) : String := String.ofList v.write

mutual

/-- The characters of a value as compact JSON. -/
def Value.writeQuoted : Value → List Char
  | .text s => Json.writeText s
  | .integer n => writeInteger n
  | .decimal x => Binary64.quoted.write x
  | .boolean b => writeBoolean b
  | .list [] => ['[', ']']
  | .list (v :: vs) => '[' :: v.writeQuoted ++ writeQuotedItems vs ++ [']']
  | .record [] => [Char.ofNat 0x7b, Char.ofNat 0x7d]
  | .record ((k, v) :: rest) =>
    Char.ofNat 0x7b :: Json.writeText k ++ ':' :: v.writeQuoted ++ writeQuotedFields rest ++
      [Char.ofNat 0x7d]

/-- The characters of the further items of a list as compact JSON. -/
def writeQuotedItems : List Value → List Char
  | [] => []
  | v :: vs => ',' :: v.writeQuoted ++ writeQuotedItems vs

/-- The characters of the further fields of a record as compact JSON. -/
def writeQuotedFields : List (String × Value) → List Char
  | [] => []
  | (k, v) :: rest => ',' :: Json.writeText k ++ ':' :: v.writeQuoted ++ writeQuotedFields rest

end

/-- A value as compact JSON. -/
def Value.quote (v : Value) : String := String.ofList v.writeQuoted

/-! ## Equality -/

mutual

/-- Whether two values have equal parts. -/
def Value.same : Value → Value → Bool
  | .text s, .text t => s = t
  | .integer m, .integer n => m = n
  | .decimal x, .decimal y => x.agrees y
  | .boolean a, .boolean b => a = b
  | .list vs, .list ws => sameItems vs ws
  | .record fs, .record gs => sameFields fs gs
  | _, _ => false

/-- Whether two lists have equal items. -/
def sameItems : List Value → List Value → Bool
  | [], [] => true
  | v :: vs, w :: ws => v.same w && sameItems vs ws
  | _, _ => false

/-- Whether two records have equal fields. -/
def sameFields : List (String × Value) → List (String × Value) → Bool
  | [], [] => true
  | (k, v) :: fs, (l, w) :: gs => k = l && v.same w && sameFields fs gs
  | _, _ => false

end

/-- A number as a floating-point number. -/
def Value.number? : Value → Option Binary64
  | .integer n => some (.ofInt n)
  | .decimal x => some x
  | _ => none

/-- Whether two values are equal. -/
def Value.equals (v w : Value) : Bool :=
  match v.number?, w.number? with
  | some x, some y => x.agrees y
  | none, none => v.same w
  | _, _ => false

/-! ## Paths -/

/-- The part of a value that a name leads to: a field of a record, or an item of a list under its
decimal index. -/
def Value.step? (v : Value) (name : String) : Option Value :=
  match v with
  | .record fields => fields.lookup name
  | .list items =>
    match Numeral.value? 10 name.toList with
    | some n => if digits 10 n = name.toList then items[n]? else none
    | none => none
  | _ => none

/-- The part of a value that a sequence of names leads to. -/
def Value.select? (v : Value) : List String → Option Value
  | [] => some v
  | name :: names => (v.step? name).bind fun part => part.select? names

/-- The sequence of names of a dotted path. -/
def splitPath (path : String) : List String :=
  (path.toList.splitOn '.').map String.ofList

end RegisterFile.Template

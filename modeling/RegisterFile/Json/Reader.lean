import RegisterFile.Json.Value
import RegisterFile.Text.Lines

set_option autoImplicit false

/-!
# Reading JSON

JSON text as a value, or the first reason why it is none.

A reader takes the characters that are left and returns what it read with the characters behind it.
Blanks are the space and the characters U+0009 to U+000D. A string may hold any character but those
below U+0020. Arrays and objects that are not empty nest at most 512 deep.

## Main definitions

* `Json.Fault` - why reading stopped, with the characters left at that point.
* `Json.readString`, `Json.readNumber`, `Json.readValue` - the readers.
* `Json.SyntaxError`, `Json.SyntaxError.message` - a fault placed in its text.
* `Json.parse` - the value of a text.

## Implementation notes

`readValue`, `readItems` and `readMembers` recurse on a bound of the remaining steps. Every step
but a first item consumes a character, so twice the length of the text is enough, and `parse`
starts from there.
-/

namespace RegisterFile.Json

/-- Why reading stopped. -/
inductive Fault where
  /-- The text ends too soon. -/
  | endOfText
  /-- The first of the characters left is not allowed where it stands. -/
  | unexpected (left : List Char)
  /-- Arrays and objects nest too deeply. -/
  | tooDeep
  /-- A surrogate code unit is not half of a pair. -/
  | unpairedSurrogate
  deriving DecidableEq, Repr

/-- Whether `c` may stand between the parts of a JSON text. -/
def isBlank (c : Char) : Bool :=
  c == ' ' || (0x9 ≤ c.toNat && c.toNat ≤ 0xd)

/-- The characters from the first one that is no blank. -/
def skipBlanks (cs : List Char) : List Char :=
  cs.dropWhile isBlank

/-! ## Words and strings -/

/-- Read the given characters. -/
def readWord : List Char → List Char → Except Fault (List Char)
  | [], cs => .ok cs
  | _ :: _, [] => .error .endOfText
  | w :: ws, c :: cs => if c = w then readWord ws cs else .error (.unexpected (c :: cs))

/-- Where in a string the reader stands. -/
inductive StringPlace where
  /-- Between characters. -/
  | plain
  /-- After a backslash. -/
  | escape
  /-- Inside `\uXXXX`, after `count` digits of the number `unit`. -/
  | unit (count unit : Nat)
  /-- After the surrogate `first`: the backslash of a second `\uXXXX` follows. -/
  | pairBackslash (first : Nat)
  /-- After the surrogate `first` and a backslash: the letter `u` follows. -/
  | pairLetter (first : Nat)
  /-- Inside a second `\uXXXX`, after `count` digits of the number `unit`. -/
  | pairUnit (first count unit : Nat)

/-- The character after a backslash, `u` apart. -/
def escapedChar? (c : Char) : Option Char :=
  if c = '"' ∨ c = '\\' ∨ c = '/' then some c
  else if c = 'b' then some (Char.ofNat 0x8)
  else if c = 'f' then some (Char.ofNat 0xc)
  else if c = 'n' then some '\n'
  else if c = 'r' then some '\r'
  else if c = 't' then some '\t'
  else none

/-- Whether `unit` is half of a surrogate pair. -/
def isSurrogate (unit : Nat) : Bool :=
  0xd800 ≤ unit && unit ≤ 0xdfff

/-- The character of a surrogate pair. -/
def surrogatePair? (first second : Nat) : Option Char :=
  if 0xd800 ≤ first ∧ first ≤ 0xdbff ∧ 0xdc00 ≤ second ∧ second ≤ 0xdfff then
    some (Char.ofNat (0x10000 + (first - 0xd800) * 0x400 + (second - 0xdc00)))
  else
    none

/-- Read the rest of a string and its closing quotation mark; `out` holds the characters read so
far, last one first. -/
def readStringFrom (place : StringPlace) (out : List Char) :
    List Char → Except Fault (String × List Char)
  | [] => .error .endOfText
  | c :: cs =>
    match place with
    | .plain =>
      if c = '"' then .ok (String.ofList out.reverse, cs)
      else if c = '\\' then readStringFrom .escape out cs
      else if c.toNat < 0x20 then .error (.unexpected (c :: cs))
      else readStringFrom .plain (c :: out) cs
    | .escape =>
      if c = 'u' then readStringFrom (.unit 0 0) out cs
      else
        match escapedChar? c with
        | some e => readStringFrom .plain (e :: out) cs
        | none => .error (.unexpected (c :: cs))
    | .unit count unit =>
      match Numeral.digitValue? 16 c with
      | none => .error (.unexpected (c :: cs))
      | some d =>
        let unit := 16 * unit + d
        if count < 3 then readStringFrom (.unit (count + 1) unit) out cs
        else if isSurrogate unit then readStringFrom (.pairBackslash unit) out cs
        else readStringFrom .plain (Char.ofNat unit :: out) cs
    | .pairBackslash first =>
      if c = '\\' then readStringFrom (.pairLetter first) out cs
      else .error (.unexpected (c :: cs))
    | .pairLetter first =>
      if c = 'u' then readStringFrom (.pairUnit first 0 0) out cs
      else .error (.unexpected (c :: cs))
    | .pairUnit first count unit =>
      match Numeral.digitValue? 16 c with
      | none => .error (.unexpected (c :: cs))
      | some d =>
        let unit := 16 * unit + d
        if count < 3 then readStringFrom (.pairUnit first (count + 1) unit) out cs
        else
          match surrogatePair? first unit with
          | some e => readStringFrom .plain (e :: out) cs
          | none => .error .unpairedSurrogate

/-- Read a string after its opening quotation mark. -/
def readString (cs : List Char) : Except Fault (String × List Char) :=
  readStringFrom .plain [] cs

/-! ## Numbers -/

/-- Read the digits before the decimal point. -/
def readIntegerDigits (mantissa : Nat) (exponent : Int) :
    List Char → Except Fault ((Nat × Int) × List Char)
  | [] => .ok ((mantissa, exponent), [])
  | c :: cs =>
    match Numeral.digitValue? 10 c with
    | none => .ok ((mantissa, exponent), c :: cs)
    | some d =>
      match appendDigit? mantissa d with
      | some m => readIntegerDigits m exponent cs
      | none =>
        if exponent < greatestExponent then readIntegerDigits mantissa (exponent + 1) cs
        else .error .tooDeep

/-- Read the digits after the decimal point. Each one that is appended lowers the exponent by one,
be it below the least exponent. -/
def readFractionDigits (mantissa : Nat) (exponent : Int) : List Char → (Nat × Int) × List Char
  | [] => ((mantissa, exponent), [])
  | c :: cs =>
    match Numeral.digitValue? 10 c with
    | none => ((mantissa, exponent), c :: cs)
    | some d =>
      match appendDigit? mantissa d with
      | some m => readFractionDigits m (exponent - 1) cs
      | none => readFractionDigits mantissa exponent cs

/-- Read the digits of an exponent; the number does not grow beyond the greatest exponent. -/
def readExponentDigits (e : Int) : List Char → Int × List Char
  | [] => (e, [])
  | c :: cs =>
    match Numeral.digitValue? 10 c with
    | none => (e, c :: cs)
    | some d => readExponentDigits (min greatestExponent (10 * e + d)) cs

/-- Require a digit as the next character. -/
def requireDigit : List Char → Except Fault Unit
  | [] => .error .endOfText
  | c :: cs => if (Numeral.digitValue? 10 c).isSome then .ok () else .error (.unexpected (c :: cs))

/-- Read an exponent after its letter and add it to `exponent`. -/
def readExponent (mantissa : Nat) (exponent : Int) (cs : List Char) :
    Except Fault (Number × List Char) := do
  let (negative, cs) :=
    match cs with
    | '-' :: rest => (true, rest)
    | '+' :: rest => (false, rest)
    | _ => (false, cs)
  requireDigit cs
  let (e, rest) := readExponentDigits 0 cs
  return (⟨false, mantissa, clampExponent (exponent + if negative then -e else e)⟩, rest)

/-- Read an exponent, if the next character starts one. -/
def readExponent? (mantissa : Nat) (exponent : Int) : List Char → Except Fault (Number × List Char)
  | 'e' :: cs => readExponent mantissa exponent cs
  | 'E' :: cs => readExponent mantissa exponent cs
  | cs => .ok (⟨false, mantissa, exponent⟩, cs)

/-- Read a fraction and an exponent, if the next characters start them. -/
def readExtension (mantissa : Nat) (exponent : Int) : List Char → Except Fault (Number × List Char)
  | '.' :: cs => do
    requireDigit cs
    let ((mantissa, exponent), rest) := readFractionDigits mantissa exponent cs
    readExponent? mantissa exponent rest
  | cs => readExponent? mantissa exponent cs

/-- Read a number without its sign. No digit follows a leading zero. -/
def readMagnitude : List Char → Except Fault (Number × List Char)
  | [] => .error .endOfText
  | '0' :: cs => readExtension 0 0 cs
  | cs => do
    requireDigit cs
    let ((mantissa, exponent), rest) ← readIntegerDigits 0 0 cs
    readExtension mantissa exponent rest

/-- Read a number. -/
def readNumber : List Char → Except Fault (Number × List Char)
  | '-' :: cs => do
    let (n, rest) ← readMagnitude cs
    return (n.negate, rest)
  | cs => readMagnitude cs

/-! ## Values -/

/-- How deep arrays and objects may nest that are not empty. -/
def deepest : Nat := 512

/-- Read a colon and the blanks around it. -/
def readColon (cs : List Char) : Except Fault (List Char) := do
  let rest ← readWord [':'] (skipBlanks cs)
  return skipBlanks rest

mutual

/-- Read a value; `room` levels of arrays and objects may be opened. -/
def readValue : (steps room : Nat) → List Char → Except Fault (Value × List Char)
  | 0, _, _ => .error .endOfText
  | _ + 1, _, [] => .error .endOfText
  | steps + 1, room, '[' :: cs =>
    match skipBlanks cs, room with
    | [], _ => .error .endOfText
    | ']' :: rest, _ => .ok (.array [], rest)
    | _, 0 => .error .tooDeep
    | first, room + 1 => do
      let (items, rest) ← readItems steps room first
      return (.array items, rest)
  | steps + 1, room, '{' :: cs =>
    match skipBlanks cs, room with
    | [], _ => .error .endOfText
    | '}' :: rest, _ => .ok (.object [], rest)
    | _, 0 => .error .tooDeep
    | first, room + 1 => do
      let (members, rest) ← readMembers steps room [] first
      return (.object members, rest)
  | _ + 1, _, '"' :: cs => do
    let (s, rest) ← readString cs
    return (.text s, rest)
  | _ + 1, _, 't' :: cs => do
    let rest ← readWord ['r', 'u', 'e'] cs
    return (.boolean true, rest)
  | _ + 1, _, 'f' :: cs => do
    let rest ← readWord ['a', 'l', 's', 'e'] cs
    return (.boolean false, rest)
  | _ + 1, _, 'n' :: cs => do
    let rest ← readWord ['u', 'l', 'l'] cs
    return (.null, rest)
  | _ + 1, _, c :: cs => do
    let (n, rest) ← readNumber (c :: cs)
    return (.number n, rest)

/-- Read the items of an array from the first character of an item, and the closing bracket. -/
def readItems : (steps room : Nat) → List Char → Except Fault (List Value × List Char)
  | 0, _, _ => .error .endOfText
  | steps + 1, room, cs => do
    let (v, rest) ← readValue steps room cs
    match skipBlanks rest with
    | [] => .error .endOfText
    | ',' :: rest =>
      let (vs, rest) ← readItems steps room (skipBlanks rest)
      return (v :: vs, rest)
    | ']' :: rest => return ([v], rest)
    | left => .error (.unexpected left)

/-- Read the members of an object from a key's opening quotation mark, and the closing brace;
`members` holds those read so far. -/
def readMembers : (steps room : Nat) → Members → List Char → Except Fault (Members × List Char)
  | 0, _, _, _ => .error .endOfText
  | steps + 1, room, members, cs => do
    let cs ← readWord ['"'] cs
    let (key, rest) ← readString cs
    let rest ← readColon rest
    let (v, rest) ← readValue steps room rest
    let members := setMember key v members
    match skipBlanks rest with
    | [] => .error .endOfText
    | ',' :: rest => readMembers steps room members (skipBlanks rest)
    | '}' :: rest => return (members, rest)
    | left => .error (.unexpected left)

end

/-- Read a text that holds one value and blanks around it. -/
def readDocument (cs : List Char) : Except Fault Value := do
  let (v, rest) ← readValue (2 * cs.length + 1) deepest (skipBlanks cs)
  match skipBlanks rest with
  | [] => return v
  | left => .error (.unexpected left)

/-! ## Whole texts -/

/-- Why a text is not JSON. -/
inductive SyntaxError where
  /-- A character is not allowed where it stands. -/
  | unexpectedCharacter (c : Char) (position : Text.Position)
  /-- The text ends too soon. -/
  | endOfText
  /-- Arrays and objects nest too deeply. -/
  | tooDeep
  /-- A surrogate code unit is not half of a pair. -/
  | unpairedSurrogate
  deriving DecidableEq, Repr

/-- The wording of a syntax error. -/
def SyntaxError.message : SyntaxError → String
  | .unexpectedCharacter c position =>
    s!"Unexpected character: {c} at ({position.line}:{position.column})"
  | .endOfText => "Unexpected end of JSON"
  | .tooDeep => "Exceeded depth limit"
  | .unpairedSurrogate => "Failed to parse UTF-8 bytes"

/-- A fault placed in the text in which it arose. -/
def Fault.locate (text : List Char) : Fault → SyntaxError
  | .endOfText => .endOfText
  | .unexpected [] => .endOfText
  | .unexpected (c :: cs) =>
    .unexpectedCharacter c (Text.endPosition (text.take (text.length - (cs.length + 1))))
  | .tooDeep => .tooDeep
  | .unpairedSurrogate => .unpairedSurrogate

/-- The value of a JSON text. -/
def parse (text : String) : Except SyntaxError Value :=
  (readDocument text.toList).mapError (Fault.locate text.toList)

end RegisterFile.Json

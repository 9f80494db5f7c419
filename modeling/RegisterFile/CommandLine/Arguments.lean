import RegisterFile.Event
import RegisterFile.Table
import RegisterFile.Text.Numeral

set_option autoImplicit false

/-!
# Command lines

The arguments of the program, first taken apart into words and options, then understood as one of
its commands.

An option is written `--name value` or `--name=value`, those with a letter also `-x value`,
`-xvalue` or `-x=value`; letters without a value may be joined. After `--` nothing is an option. A
value that is an argument of its own does not start with a minus, unless it is a single minus. No
option but `-v` and `-q` is given twice.

## Main definitions

* `CommandLine.Form`, `CommandLine.Parts`, `CommandLine.divide` - options, and arguments divided
  into words and options.
* `CommandLine.Command`, `CommandLine.Invocation` - what the program is asked to do.
* `CommandLine.parse` - the invocation that a list of arguments stands for.
-/

namespace RegisterFile.CommandLine

/-! ## Words and options -/

/-- The options that a command knows, besides the letters and names for its verbosity. -/
structure Form where
  /-- The names of the options that take a value. -/
  valued : List String
  /-- The names of those that do not. -/
  flags : List String
  /-- The letters that stand for options with a value. -/
  letters : List (Char × String)

/-- The words and options of a command. -/
structure Parts where
  words : List String
  values : List (String × String)
  flags : List String
  /-- How often `-v` is given, up to `countLimit`. -/
  louder : Nat
  /-- How often `-q` is given, up to `countLimit`. -/
  quieter : Nat

/-- Flags are not counted any further. -/
def countLimit : Nat := 255

namespace Parts

/-- No words and no options. -/
def empty : Parts := ⟨[], [], [], 0, 0⟩

/-- The parts with a word in front. -/
def addWord (p : Parts) (word : String) : Parts := { p with words := word :: p.words }

/-- The parts with an option, unless it is there already. -/
def addValue (p : Parts) (name value : String) : Option Parts :=
  if (p.values.lookup name).isSome then none
  else some { p with values := (name, value) :: p.values }

/-- The parts with an option that takes no value, unless it is there already. -/
def addFlag (p : Parts) (name : String) : Option Parts :=
  if p.flags.contains name then none else some { p with flags := name :: p.flags }

/-- The parts with one more `-v`. -/
def addLouder (p : Parts) : Parts := { p with louder := min countLimit (p.louder + 1) }

/-- The parts with one more `-q`. -/
def addQuieter (p : Parts) : Parts := { p with quieter := min countLimit (p.quieter + 1) }

end Parts

/-- Whether an argument is read as an option. -/
def looksLikeOption (argument : String) : Bool :=
  match argument.toList with
  | '-' :: _ :: _ => true
  | _ => false

/-- An option by its name: the name, and the value if an equals sign attaches one. -/
def splitAttached (cs : List Char) : String × Option String :=
  (String.ofList (cs.takeWhile (· ≠ '=')),
    match cs.dropWhile (· ≠ '=') with
    | [] => none
    | _ :: value => some (String.ofList value))

/-- What joined letters ask for: changes to the parts, and the name of an option at their end with
the value attached to it, if there is one. -/
structure Letters where
  change : Parts → Parts
  valued : Option (String × Option String)

/-- Understand joined letters. -/
def readLetters (form : Form) : List Char → Option Letters
  | [] => some ⟨id, none⟩
  | 'v' :: cs => do
    let more ← readLetters form cs
    return { more with change := Parts.addLouder ∘ more.change }
  | 'q' :: cs => do
    let more ← readLetters form cs
    return { more with change := Parts.addQuieter ∘ more.change }
  | c :: cs =>
    match form.letters.lookup c, cs with
    | none, _ => none
    | some name, [] => some ⟨id, some (name, none)⟩
    | some name, '=' :: value => some ⟨id, some (name, some (String.ofList value))⟩
    | some name, value => some ⟨id, some (name, some (String.ofList value))⟩

/-- Divide the arguments of a command into words and options; `pending` names an option whose value
is the next argument. -/
def divideFrom (form : Form) : (pending : Option String) → List String → Option Parts
  | none, [] => some .empty
  | some _, [] => none
  | some name, value :: rest =>
    if looksLikeOption value then none
    else do
      let parts ← divideFrom form none rest
      parts.addValue name value
  | none, argument :: rest =>
    match argument.toList with
    | ['-', '-'] => some { Parts.empty with words := rest }
    | '-' :: '-' :: cs =>
      match splitAttached cs with
      | (name, some value) =>
        if form.valued.contains name then do
          let parts ← divideFrom form none rest
          parts.addValue name value
        else none
      | (name, none) =>
        if form.valued.contains name then divideFrom form (some name) rest
        else do
          let parts ← divideFrom form none rest
          if form.flags.contains name then parts.addFlag name
          else if name = "verbose" then some parts.addLouder
          else if name = "quiet" then some parts.addQuieter
          else none
    | '-' :: c :: cs => do
      let letters ← readLetters form (c :: cs)
      match letters.valued with
      | none => (divideFrom form none rest).map letters.change
      | some (name, none) => (divideFrom form (some name) rest).map letters.change
      | some (name, some value) => do
        let parts ← divideFrom form none rest
        return letters.change (← parts.addValue name value)
    | _ => (divideFrom form none rest).map (·.addWord argument)

/-- Divide the arguments of a command into words and options. -/
def divide (form : Form) (arguments : List String) : Option Parts :=
  divideFrom form none arguments

/-! ## Commands -/

/-- What is changed about a declaration. -/
structure Overrides where
  moduleName : Option String
  registerWidth : Option UInt32

/-- What the program is asked to do. -/
inductive Command where
  /-- Render a declaration into a file or to the output; `template` is a directory and the name of a
  template in it. -/
  | generate (declaration : String) (output : Option String) (overrides : Overrides)
      (template : Option (String × String))
  /-- Plan a declaration and print the plan, as JSON if asked for. -/
  | plan (declaration : String) (overrides : Overrides) (json : Bool)
  /-- List the registers of a declaration. -/
  | listRegisters (declaration : String) (sorting : Sorting)
  /-- Print the sample declaration. -/
  | sample

/-- A command and the least important severity that is told, if any is. -/
structure Invocation where
  threshold : Option Severity
  command : Command

/-- A path that is given as a value. The empty text is no path. -/
def path? (s : String) : Option String :=
  if s = "" then none else some s

/-- A register width in decimal or, behind `0x` or `0X`, in hexadecimal digits. A plus may stand in
front of the digits. -/
def width? (s : String) : Option UInt32 :=
  let (radix, cs) :=
    match s.toList with
    | '0' :: 'x' :: cs => (16, cs)
    | '0' :: 'X' :: cs => (16, cs)
    | cs => (10, cs)
  let cs :=
    match cs with
    | '+' :: cs => cs
    | cs => cs
  ((Numeral.value? radix cs).filter (· < UInt32.size)).map UInt32.ofNat

/-- The sorting of a name. -/
def sorting? (s : String) : Option Sorting :=
  [("preserve", .preserve), ("address", .address), ("alpha", .alpha)].lookup s

/-- The value of an option: nothing if it is not given, a failure if `read` refuses its value. -/
def Parts.valueOf {α : Type} (p : Parts) (name : String) (read : String → Option α) :
    Option (Option α) :=
  match p.values.lookup name with
  | none => some none
  | some value => (read value).map some

/-- The only word of a command, the path of its declaration. -/
def Parts.declaration? (p : Parts) : Option String :=
  match p.words with
  | [word] => path? word
  | _ => none

/-- The changes that options ask for. -/
def Parts.overrides? (p : Parts) : Option Overrides := do
  return ⟨← p.valueOf "module" some, ← p.valueOf "width" width?⟩

/-- The template that options ask for. The directory and the name are given both or neither. -/
def Parts.template? (p : Parts) : Option (Option (String × String)) := do
  match ← p.valueOf "template-dir" path?, p.values.lookup "template" with
  | some directory, some name => return some (directory, name)
  | none, none => return none
  | _, _ => none

/-- The options of a command. -/
def form : String → Option Form
  | "gen" => some ⟨["output", "module", "width", "template-dir", "template"], [], [('o', "output")]⟩
  | "plan" => some ⟨["module", "width"], ["json"], []⟩
  | "ls-registers" => some ⟨["sorting"], [], []⟩
  | "example" => some ⟨[], [], []⟩
  | _ => none

/-- The command of a name with the given words and options. -/
def command? (name : String) (p : Parts) : Option Command := do
  match name with
  | "gen" =>
    return .generate (← p.declaration?) (← p.valueOf "output" path?) (← p.overrides?)
      (← p.template?)
  | "plan" => return .plan (← p.declaration?) (← p.overrides?) (p.flags.contains "json")
  | "ls-registers" =>
    return .listRegisters (← p.declaration?) ((← p.valueOf "sorting" sorting?).getD .preserve)
  | "example" => if p.words.isEmpty then some .sample else none
  | _ => none

/-! ## Verbosity -/

/-- The severity of a rank; those below all ranks are none. -/
def severityOfRank (rank : Int) : Option Severity :=
  if rank < 0 then none
  else
    match rank.toNat with
    | 0 => some .error
    | 1 => some .warning
    | 2 => some .info
    | 3 => some .debug
    | _ => some .trace

/-- The least important severity that is told: warnings, and more or less for each `-v` and `-q`. -/
def threshold (louder quieter : Nat) : Option Severity :=
  severityOfRank (Severity.warning.rank + louder - quieter)

/-! ## Whole command lines -/

/-- Divide arguments at the name of a command: the arguments before it, the name and the arguments
behind it. No command stands behind `--`. -/
def splitCommand : List String → Option (List String × String × List String)
  | [] => none
  | argument :: rest =>
    if argument = "--" then none
    else if looksLikeOption argument then
      (splitCommand rest).map fun (before, name, behind) => (argument :: before, name, behind)
    else
      some ([], argument, rest)

/-- The invocation that a list of arguments stands for. `-v` and `-q` may stand before and behind
the name of the command, but not together on one side; those behind it count before those in
front. -/
def parse (arguments : List String) : Option Invocation := do
  let (before, name, behind) ← splitCommand arguments
  let before ← divide ⟨[], [], []⟩ before
  let behind ← divide (← form name) behind
  if before.words ≠ [] ∨ before.louder * before.quieter ≠ 0 ∨
      behind.louder * behind.quieter ≠ 0 then none
  let command ← command? name behind
  let louder := if behind.louder = 0 then before.louder else behind.louder
  let quieter := if behind.quieter = 0 then before.quieter else behind.quieter
  return ⟨threshold louder quieter, command⟩

end RegisterFile.CommandLine

import RegisterFile.Files.Path

set_option autoImplicit false

/-!
# Events

What is worth telling about a run besides its result.

## Main definitions

* `Severity` - how important an event is.
* `Event` - an event.
* `Event.severity`, `Event.origin`, `Event.message` - its importance, its place and its wording.
-/

namespace RegisterFile

/-- How important an event is, the most important first. -/
inductive Severity where
  | error
  | warning
  | info
  | debug
  | trace
  deriving DecidableEq, Repr

/-- The rank of a severity; less is more important. -/
def Severity.rank : Severity → Nat
  | .error => 0
  | .warning => 1
  | .info => 2
  | .debug => 3
  | .trace => 4

/-- The name of a severity. -/
def Severity.name : Severity → String
  | .error => "ERROR"
  | .warning => "WARN"
  | .info => "INFO"
  | .debug => "DEBUG"
  | .trace => "TRACE"

/-- An event. -/
inductive Event where
  /-- A declaration was read from a file. -/
  | declarationRead (registers : Nat) (path : String)
  /-- Registers were planned. -/
  | planned (moduleName : String) (registers slots busAddressBits widthBits : Nat)
  /-- The pattern for the files of a template directory was written as an expression. -/
  | patternExpressed (pattern expression : String)
  /-- The pattern for the files of a template directory was made ready; `lastName` tells whether it
  looks at nothing but their last names. -/
  | patternPrepared (lastName : Bool)
  /-- The templates of a directory were loaded. -/
  | templatesLoaded (directory : String) (names : List String)
  /-- A register has a mode that the template does not implement. -/
  | modeUnknown (label mode template : String)
  /-- Two labels differ only in case. -/
  | labelsCollide (first second : String)
  /-- A register file was written. -/
  | registerFileWritten (moduleName : String) (registers : Nat) (path : String)
  deriving DecidableEq, Repr

namespace Event

/-- How important an event is. -/
def severity : Event → Severity
  | declarationRead .. => .debug
  | planned .. => .debug
  | patternExpressed .. => .debug
  | patternPrepared .. => .debug
  | templatesLoaded .. => .debug
  | modeUnknown .. => .warning
  | labelsCollide .. => .warning
  | registerFileWritten .. => .info

/-- The part of the program that an event comes from. -/
def origin : Event → String
  | declarationRead .. => "regfilegen::frontend"
  | planned .. => "regfilegen::plan"
  | patternExpressed .. => "globset"
  | patternPrepared .. => "globset"
  | templatesLoaded .. => "regfilegen::render"
  | modeUnknown .. => "regfilegen::render"
  | labelsCollide .. => "regfilegen::render"
  | registerFileWritten .. => "regfilegen::api"

/-- The wording of an event. -/
def message : Event → String
  | declarationRead registers path => s!"read {registers} register declarations from {path}"
  | planned moduleName registers slots busAddressBits widthBits =>
    s!"planned '{moduleName}': {registers} registers padded to {slots}, " ++
      s!"{busAddressBits}-bit bus address, {widthBits} bits per register"
  | patternExpressed pattern expression =>
    s!"glob `Glob({Files.quoteText pattern})` converted to regex: " ++
      s!"`{Files.quoteText expression}`"
  | patternPrepared lastName =>
    "built glob set; 0 literals, 0 basenames, 0 extensions, 0 prefixes, 0 suffixes, " ++
      "0 required extensions, " ++
      if lastName then "1 basename regexes, 0 regexes" else "0 basename regexes, 1 regexes"
  | templatesLoaded directory names =>
    s!"loaded templates from {directory}: " ++ ", ".intercalate names
  | modeUnknown label mode template =>
    s!"register '{label}' has mode '{mode}' which {template} does not implement, " ++
      "the register is left out"
  | labelsCollide first second =>
    s!"labels '{first}' and '{second}' differ only in case, which VHDL does not distinguish"
  | registerFileWritten moduleName registers path =>
    s!"wrote register file '{moduleName}' with {registers} registers into {path}"

end Event

end RegisterFile

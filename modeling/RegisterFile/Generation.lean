import RegisterFile.Renderer
import RegisterFile.Table

set_option autoImplicit false

/-!
# Generation

From a declaration to the text of a register file, and from a file to a file.

A run reads a declaration, plans it, loads the template, renders it and writes the text, in this
order; the first stage that fails ends it. Nothing is written unless all stages before succeed.

## Main definitions

* `Options` - what is changed about a declaration, and the template to use.
* `planRegisters`, `planDeclaration` - planning, told as an event.
* `renderRegisters` - planning and rendering with a given renderer.
* `generate`, `tableLines` - the text of a register file, and its register table.
* `readDeclaration` - the declaration in a file.
* `generateToFile` - from a file to a file.
-/

namespace RegisterFile

/-- What is changed about a declaration, and the template to use. -/
structure Options where
  /-- Replaces the module name of the declaration. -/
  moduleName : Option String
  /-- Replaces the register width of the declaration. -/
  registerWidth : Option UInt32
  template : TemplateSource

/-- The options that change nothing and use the standard template. -/
def Options.standard : Options := ⟨none, none, .standard⟩

/-- The declaration with the changes that the options ask for. -/
def Options.adjust (o : Options) (d : Declaration) : Declaration :=
  { d with
    moduleName := o.moduleName.getD d.moduleName
    registerWidth := o.registerWidth.getD d.registerWidth }

/-! ## Planning and rendering -/

/-- The event that a plan is told as. -/
def Plan.event (p : Plan) : Event :=
  .planned p.moduleName p.registers.length p.slots p.busAddressBits p.width.bits

/-- Plan a list of registers. -/
def planRegisters (moduleName : String) (registers : List Register) (bits : UInt32) :
    Logged Plan := do
  let p ← Logged.ofExcept .plan (plan moduleName registers bits)
  Logged.tell [p.event]
  return p

/-- Plan a list of registers and render the plan. -/
def renderRegisters (registers : List Register) (moduleName : String) (bits : UInt32)
    (renderer : Renderer) : Logged String := do
  let p ← planRegisters moduleName registers bits
  renderer.render p

/-- Plan a declaration as the options adjust it. -/
def planDeclaration (d : Declaration) (o : Options) : Logged Plan :=
  let d := o.adjust d
  planRegisters d.moduleName d.registers d.registerWidth

/-- The text of the register file that a declaration describes. -/
def generate (files : Files.Tree) (d : Declaration) (o : Options) : Logged String := do
  let p ← planDeclaration d o
  let renderer ← o.template.load files
  renderer.render p

/-- The register table of a plan. -/
def tableLines (p : Plan) (sorting : Sorting) : Logged (List String) :=
  Logged.ofExcept (.brokenOff ∘ .fieldTooWide) (registerTable p sorting)

/-! ## Files -/

/-- The declaration in the file that a path leads to. -/
def readDeclaration (files : Files.Tree) (path : String) : Logged Declaration := do
  let text ← Logged.ofExcept .file (files.readText path)
  let d ← Logged.ofExcept .declaration (Declaration.parse text)
  Logged.tell [.declarationRead d.registers.length path]
  return d

/-- Read the declaration in a file and render it. -/
def generateFromFile (files : Files.Tree) (input : String) (o : Options) :
    Logged (Plan × String) := do
  let d ← readDeclaration files input
  let p ← planDeclaration d o
  let renderer ← o.template.load files
  let text ← renderer.render p
  return (p, text)

/-- Read the declaration in the file `input`, render it and write the text into the file `output`.
The file tree is returned as it is afterwards. -/
def generateToFile (files : Files.Tree) (input output : String) (o : Options) :
    Logged Plan × Files.Tree :=
  let generated := generateFromFile files input o
  match generated.outcome with
  | .error failure => (⟨generated.events, .error failure⟩, files)
  | .ok (p, text) =>
    match files.writeText output text with
    | (.error fault, files') => (⟨generated.events, .error (.file fault)⟩, files')
    | (.ok (), files') =>
      let written := .registerFileWritten p.moduleName p.registers.length output
      (⟨generated.events ++ [written], .ok p⟩, files')

end RegisterFile

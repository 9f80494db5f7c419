import RegisterFile.Files.Pattern.Expression
import RegisterFile.Logged
import RegisterFile.Template.Source
import RegisterFile.Vhdl.StandardTemplate

set_option autoImplicit false

/-!
# Renderers

What turns a plan into text: the standard template, a template from a directory, or anything else.

The standard template warns of registers whose mode it does not implement and of labels that VHDL
does not tell apart. The templates of a directory give no warnings. All files of a template
directory have to be templates, and a template is named by the path that leads to it from the
directory, where a backslash counts as a slash.

## Main definitions

* `Renderer` - a renderer; it tells its warnings before it renders.
* `Plan.scope` - the variables that a template sees.
* `caseCollisions`, `Plan.warnings` - the warnings of the standard template.
* `Renderer.ofTemplate` - the renderer of a template.
* `TemplateSource`, `TemplateSource.load` - where a template comes from, and its renderer.
* `Renderer.summary`, `Renderer.refusing` - renderers without a template.
-/

namespace RegisterFile

open Template (Body Value Scope)

/-- What turns a plan into text. -/
structure Renderer where
  name : String
  render : Plan → Logged String

/-! ## Variables -/

/-- A register as templates see it. -/
def Plan.registerValue (p : Plan) (r : Register) : Value :=
  .record [
    ("addr", .integer r.address.toNat),
    ("byte_offset", .text (Numeral.hex (p.byteOffset r))),
    ("initval", .integer r.initval.toNat),
    ("label", .text r.label),
    ("mode", .text r.mode.tag)]

/-- The variables that a template sees. -/
def Plan.bindings (p : Plan) : List (String × Value) := [
  ("MODULE_NAME", .text p.moduleName),
  ("registers", .list (p.registers.map p.registerValue)),
  ("JUST_WIDTH", .integer p.labelColumn),
  ("NUM_REGISTERS", .integer p.slots),
  ("AXI_ADDR_WIDTH", .integer p.busAddressBits),
  ("REGISTER_WIDTH", .integer p.width.bits),
  ("REGISTER_BYTE_WIDTH", .integer p.width.byteWidth),
  ("LOG2_REGISTER_BYTE_WIDTH", .integer p.width.log2Bytes)]

/-- The scope of a whole template. -/
def Plan.scope (p : Plan) : Scope := ⟨[], p.bindings⟩

/-! ## Warnings -/

/-- The labels of a list that equal an earlier one in upper case, each behind the last such one;
`seen` holds the earlier labels in upper case and as they are, the last one first. -/
def collisionsAfter (seen : List (String × String)) : List String → List (String × String)
  | [] => []
  | label :: labels =>
    let folded := Text.uppercase label
    let later := collisionsAfter ((folded, label) :: seen) labels
    match seen.lookup folded with
    | some first => (first, label) :: later
    | none => later

/-- The labels of a list that equal an earlier one in upper case, each behind the last such one. -/
def caseCollisions (labels : List String) : List (String × String) :=
  collisionsAfter [] labels

/-- What the standard template warns of: modes it does not implement, then labels that differ only
in case. -/
def Plan.warnings (p : Plan) : List Event :=
  (p.registers.filter fun r => !r.mode.isKnown).map
      (fun r => .modeUnknown r.label r.mode.tag Vhdl.templateName) ++
    (caseCollisions (p.registers.map Register.label)).map fun (first, second) =>
      .labelsCollide first second

/-! ## Templates -/

/-- The failure that a stop of the template of this name is. -/
def stopFailure (name : String) : Template.Stop → Failure
  | .fault cause => .render (.template (.rendering name cause))
  | .brokenOff cause => .brokenOff cause

/-- The renderer of a template. Values are put into the text as they are, whatever the suffix of the
name is: escaping them for web pages is switched off, since the text is source code and never a
page. -/
def Renderer.ofTemplate (name : String) (body : Body) (warnings : Plan → List Event) :
    Renderer where
  name := name
  render p := do
    Logged.tell (warnings p)
    Logged.ofExcept (stopFailure name) (body.render name p.scope)

/-- The body of a template. -/
def parseTemplate (source : String) : Except RenderFault Body :=
  match Template.parse source with
  | some body => .ok body
  | none => .error (.template .malformed)

/-- The renderer of the standard template. -/
def Renderer.standard : Except RenderFault Renderer := do
  let body ← parseTemplate Vhdl.templateSource
  return .ofTemplate Vhdl.templateName body Plan.warnings

/-- The name of the template in a file. -/
def templateName (f : Files.FoundFile) : String :=
  ("/".intercalate f.names).map fun c => if c = '\\' then '/' else c

/-- The path of a file from the root. -/
def absolutePath (f : Files.FoundFile) : String :=
  "/" ++ "/".intercalate f.location

/-- The files that are no text, by their paths in alphabetic order. -/
def unreadablePaths (files : List Files.FoundFile) : List String :=
  let unreadable := files.filter fun f => (String.fromUTF8? f.content).isNone
  (unreadable.map absolutePath).mergeSort (· ≤ ·)

/-- The sources of the templates in some files, in alphabetic order of their names. -/
def templateSources (files : List Files.FoundFile) : List (String × String) :=
  let sources := files.filterMap fun f => (String.fromUTF8? f.content).map (templateName f, ·)
  sources.mergeSort fun a b => a.1 ≤ b.1

/-- The templates in some files: all of them, or none can be used. A text that is no template counts
before a file that is no text. -/
def parseTemplates (files : List Files.FoundFile) :
    Except RenderFault (List (String × Body)) := do
  let templates ← (templateSources files).mapM fun (name, source) => do
    return (name, ← parseTemplate source)
  match unreadablePaths files with
  | [] => return templates
  | paths => .error (.template (.unreadable paths))

/-- What is told about the pattern for the files of a template directory. -/
def selectionEvents (s : Files.Selection) : List Event :=
  if s.pattern.looksAtLastName then [.patternPrepared true]
  else [.patternExpressed s.text s.pattern.expression, .patternPrepared false]

/-- The renderer of a template from a directory. -/
def Renderer.ofDirectory (files : Files.Tree) (directory : Files.DirectoryPath) (name : String) :
    Logged Renderer :=
  match directory with
  | .bytes raw => Logged.fail (.render (.pathNotText (.bytes raw)))
  | .text path => do
    let selection ← Logged.ofExcept (.brokenOff ∘ .search) (files.selection? path)
    Logged.tell (selection.elim [] selectionEvents)
    let found ← Logged.ofExcept (.brokenOff ∘ .search) (files.templateFiles path)
    let templates ← Logged.ofExcept .render (parseTemplates found)
    match templates.lookup name with
    | none => Logged.fail (.render (.templateNotFound name directory))
    | some body => do
      Logged.tell [.templatesLoaded path (templates.map Prod.fst).eraseDups]
      return .ofTemplate name body fun _ => []

/-- Where a template comes from. -/
inductive TemplateSource where
  /-- The standard template. -/
  | standard
  /-- The template of a name in a directory. -/
  | directory (path : Files.DirectoryPath) (name : String)

/-- The renderer of a template, looked up in a file tree. -/
def TemplateSource.load (files : Files.Tree) : TemplateSource → Logged Renderer
  | .standard => Logged.ofExcept .render Renderer.standard
  | .directory path name => Renderer.ofDirectory files path name

/-! ## Renderers without a template

A client can bring any renderer. -/

/-- The renderer that yields the module name, the number of slots and the width of a byte
address. -/
def Renderer.summary : Renderer where
  name := "summary"
  render p := pure s!"{p.moduleName} {p.slots} {p.busAddressBits}"

/-- The renderer that always refuses for the given reason. -/
def Renderer.refusing (reason : String) : Renderer where
  name := "refusing"
  render _ := Logged.fail (.render (.template (.refused reason)))

end RegisterFile

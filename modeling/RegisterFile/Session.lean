import RegisterFile.Generation

set_option autoImplicit false

/-!
# Sessions

A session is what a client keeps from step to step: the options, which are set one by one, the
declaration that was read last and the file tree. A step that fails leaves the session as it is,
except that directories stay that a run from a file to a file has made before it fails to write.

## Main definitions

* `Session` - what a session keeps.
* `Session.start` - a session with the standard options and the sample declaration.
* `Session.plan`, `Session.generate` - steps that only look at a session.
* `Session.parse`, `Session.load`, `Session.generateToFile` - steps that may change it.
* `Session.Step`, `Session.take`, `Session.run` - the steps that may change a session as data, and
  the session after one of them and after several.
-/

namespace RegisterFile

/-- What a session keeps from step to step. -/
structure Session where
  options : Options
  declaration : Declaration
  files : Files.Tree

namespace Session

/-- A session on a file tree, with the standard options and the sample declaration. -/
def start (files : Files.Tree) : Session := ⟨.standard, .sample, files⟩

/-! ## Options -/

/-- Replace the module name of declarations, or stop replacing it. -/
def setModuleName (s : Session) (name : Option String) : Session :=
  { s with options := { s.options with moduleName := name } }

/-- Replace the register width of declarations, or stop replacing it. -/
def setRegisterWidth (s : Session) (bits : Option UInt32) : Session :=
  { s with options := { s.options with registerWidth := bits } }

/-- Use another template. -/
def setTemplate (s : Session) (source : TemplateSource) : Session :=
  { s with options := { s.options with template := source } }

/-! ## The current declaration -/

/-- Make the outcome of reading a declaration, if it is one, the current declaration. -/
def adopt (s : Session) (reading : Logged Declaration) : Logged Declaration × Session :=
  match reading.outcome with
  | .ok d => (reading, { s with declaration := d })
  | .error _ => (reading, s)

/-- Make the declaration in a text the current one. -/
def parse (s : Session) (text : String) : Logged Declaration × Session :=
  s.adopt (Logged.ofExcept .declaration (Declaration.parse text))

/-- Make the declaration in a file the current one. -/
def load (s : Session) (path : String) : Logged Declaration × Session :=
  s.adopt (readDeclaration s.files path)

/-- Plan the current declaration. -/
def plan (s : Session) : Logged Plan :=
  planDeclaration s.declaration s.options

/-- Render the current declaration. -/
def generate (s : Session) : Logged String :=
  RegisterFile.generate s.files s.declaration s.options

/-! ## From file to file -/

/-- Render the declaration in the file `input` into the file `output`. The current declaration stays
as it is. -/
def generateToFile (s : Session) (input output : String) : Logged Plan × Session :=
  let (result, files) := RegisterFile.generateToFile s.files input output s.options
  (result, { s with files })

/-! ## Several steps -/

/-- A step that may change a session. -/
inductive Step where
  | setModuleName (name : Option String)
  | setRegisterWidth (bits : Option UInt32)
  | setTemplate (source : TemplateSource)
  | parse (text : String)
  | load (path : String)
  | generateToFile (input output : String)

/-- Take a step: whether it fails, and the session afterwards. -/
def take (s : Session) : Step → Except Failure Unit × Session
  | .setModuleName name => (.ok (), s.setModuleName name)
  | .setRegisterWidth bits => (.ok (), s.setRegisterWidth bits)
  | .setTemplate source => (.ok (), s.setTemplate source)
  | .parse text =>
    let (reading, s') := s.parse text
    (reading.outcome.map fun _ => (), s')
  | .load path =>
    let (reading, s') := s.load path
    (reading.outcome.map fun _ => (), s')
  | .generateToFile input output =>
    let (result, s') := s.generateToFile input output
    (result.outcome.map fun _ => (), s')

/-- The session after some steps, each of them taken whether those before it failed or not. -/
def run (s : Session) (steps : List Step) : Session :=
  steps.foldl (fun s step => (s.take step).2) s

end Session

end RegisterFile

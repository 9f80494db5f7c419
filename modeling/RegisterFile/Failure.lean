import RegisterFile.Breakdown
import RegisterFile.Declaration
import RegisterFile.Plan
import RegisterFile.Template.Rendering

set_option autoImplicit false

/-!
# Failures

Why a run yields no result, with the wording of each cause behind the one it explains.

## Main definitions

* `TemplateFault`, `RenderFault` - why a template yields no text.
* `Failure` - why a run fails.
* `Failure.messages`, `Failure.message` - the wording of its causes, apart and as one line.
-/

namespace RegisterFile

/-- Why the template engine yields no text. -/
inductive TemplateFault where
  /-- The text of a template cannot be understood. -/
  | malformed
  /-- The files with these paths are no text. -/
  | unreadable (paths : List String)
  /-- A part of the named template cannot be evaluated. -/
  | rendering (template : String) (cause : Template.Fault)
  /-- A renderer refuses for a reason of its own. -/
  | refused (reason : String)

/-- The wording of a template that is no text. -/
def describeUnreadable (path : String) : String :=
  "\n* Failed to read template '" ++ Files.quoteText path ++ "'\n" ++ Files.Obstacle.notText.message

/-- The wording of a fault and of its causes, outermost first. -/
def TemplateFault.messages : TemplateFault → List String
  | .malformed => ["template syntax"]
  | .unreadable paths => [String.join (paths.map describeUnreadable)]
  | .rendering template cause => s!"Failed to render '{template}'" :: cause.messages
  | .refused reason => [reason]

/-- Why a plan is not rendered. -/
inductive RenderFault where
  | template (cause : TemplateFault)
  /-- The path of the template directory is not text. -/
  | pathNotText (path : Files.DirectoryPath)
  /-- The template directory has no template of this name. -/
  | templateNotFound (name : String) (directory : Files.DirectoryPath)

/-- The wording of a fault and of its causes, outermost first. -/
def RenderFault.messages : RenderFault → List String
  | .template cause => "template engine failure" :: cause.messages
  | .pathNotText path => [s!"template directory path is not valid UTF-8: {path.quoted}"]
  | .templateNotFound name directory =>
    [s!"template '{name}' not found in {directory.quoted}"]

/-- Why a run fails. -/
inductive Failure where
  | register (cause : RegisterFault)
  | plan (cause : PlanFault)
  | declaration (cause : DeclarationFault)
  | render (cause : RenderFault)
  | file (cause : Files.Fault)
  /-- The run breaks off. -/
  | brokenOff (cause : Breakdown)

namespace Failure

/-- The wording of a failure and of its causes, outermost first. -/
def messages : Failure → List String
  | register cause => ["invalid register", cause.message]
  | plan cause => "cannot plan register file address space" :: cause.messages
  | declaration cause => "cannot read register file declaration" :: cause.messages
  | render cause => "cannot render register file" :: cause.messages
  | file cause => "file access failed" :: cause.messages
  | brokenOff cause => [cause.message]

/-- The wording of a failure and of its causes in one line. -/
def message (f : Failure) : String := ": ".intercalate f.messages

end Failure

end RegisterFile

import RegisterFile.CommandLine.Arguments
import RegisterFile.Generation
import RegisterFile.Text.Control

set_option autoImplicit false

/-!
# Running commands

What the program prints and changes for a list of arguments, given the files it finds.

## Main definitions

* `CommandLine.Complaint` - why a command fails, with a headline of its own.
* `CommandLine.Report` - the exit code, the printed texts and the files afterwards.
* `CommandLine.run` - the report on a list of arguments.
-/

namespace RegisterFile.CommandLine

/-! ## Complaints -/

/-- Why a command fails: a headline and the wording of its causes. -/
structure Complaint where
  headline : String
  causes : List String

/-- A text with `indent` behind every line feed. -/
def indentLines (indent : String) (s : String) : String :=
  String.ofList (s.toList.flatMap fun c => if c = '\n' then '\n' :: indent.toList else [c])

/-- The causes of a complaint, numbered from `index`. -/
def numberCauses (index : Nat) : List String → List String
  | [] => []
  | cause :: causes =>
    (s!"\n    {index}: " ++ indentLines "       " cause) :: numberCauses (index + 1) causes

/-- The text of a complaint. A lone cause has no number. -/
def Complaint.text (c : Complaint) : String :=
  let causes :=
    match c.causes with
    | [] => ""
    | [cause] => "\n\nCaused by:\n    " ++ indentLines "    " cause
    | causes => "\n\nCaused by:" ++ String.join (numberCauses 0 causes)
  "Error: " ++ c.headline ++ causes ++ "\n"

/-- What a command ends with. -/
inductive Ending where
  /-- It succeeds and prints a text. -/
  | printed (text : String)
  /-- It fails. -/
  | complained (c : Complaint)
  /-- It breaks off. -/
  | brokenOff (cause : Breakdown)

/-- The ending of a command that fails under the given headline. -/
def Ending.ofFailure (headline : String) : Failure → Ending
  | .brokenOff cause => .brokenOff cause
  | failure => .complained ⟨headline, failure.messages⟩

/-! ## Events -/

/-- Whether events of a severity are told. -/
def isTold (threshold : Option Severity) (s : Severity) : Bool :=
  match threshold with
  | some least => s.rank ≤ least.rank
  | none => false

/-- The name of a severity, filled up to the width of the longest one. -/
def severityColumn (s : Severity) : String := Text.padEnd 5 s.name

/-- The text of an event. Control sequences in its wording never reach the terminal. -/
def eventText (e : Event) : String :=
  Text.withoutControls
    (s!"[{severityColumn e.severity} {e.origin}] " ++ indentLines "    " e.message ++ "\n")

/-- The text of the events that are told. -/
def eventsText (threshold : Option Severity) (events : List Event) : String :=
  String.join ((events.filter fun e => isTold threshold e.severity).map eventText)

/-! ## Commands -/

/-- The options that overrides and a template ask for. -/
def optionsOf (overrides : Overrides) (template : Option (String × String)) : Options where
  moduleName := overrides.moduleName
  registerWidth := overrides.registerWidth
  template :=
    match template with
    | some (directory, name) => .directory (.text directory) name
    | none => .standard

/-- What a command has told and how it ends. -/
structure Course where
  events : List Event
  ending : Ending

/-- Go on with the result of a computation, or end under the given headline. -/
def attempt {α : Type} (headline : String) (x : Logged α) (next : α → Course) : Course :=
  match x.outcome with
  | .ok a =>
    let later := next a
    ⟨x.events ++ later.events, later.ending⟩
  | .error failure => ⟨x.events, .ofFailure headline failure⟩

/-- End with a printed text. -/
def print (text : String) : Course := ⟨[], .printed text⟩

/-- Go on with the declaration in a file. -/
def withDeclaration (files : Files.Tree) (path : String) (next : Declaration → Course) : Course :=
  if files.isFile path then
    attempt ("could not read declaration: " ++ path) (readDeclaration files path) next
  else
    ⟨[], .complained ⟨"file does not exist: " ++ path, []⟩⟩

/-- A plan in words. -/
def planText (p : Plan) : String :=
  s!"module:                   {p.moduleName}\n" ++
    s!"register width:           {p.width.bits}\n" ++
    s!"register byte width:      {p.width.byteWidth}\n" ++
    s!"log2 register byte width: {p.width.log2Bytes}\n" ++
    s!"register index bits:      {p.addressBits}\n" ++
    s!"axi address width:        {p.busAddressBits}\n" ++
    s!"registers:                {p.registers.length} (padded to {p.slots})\n"

/-- The lines of a text, each with a line feed behind it. -/
def joinLines (lines : List String) : String :=
  String.join (lines.map (· ++ "\n"))

/-- Print the text of a register file. -/
def runGenerate (files : Files.Tree) (path : String) (o : Options) : Course :=
  withDeclaration files path fun d =>
    attempt ("could not generate from " ++ path) (generate files d o) print

/-- Print a plan. -/
def runPlan (files : Files.Tree) (path : String) (o : Options) (json : Bool) : Course :=
  withDeclaration files path fun d =>
    attempt ("invalid declaration: " ++ path) (planDeclaration d o) fun p =>
      print (if json then p.toJson.pretty 4 ++ "\n" else planText p)

/-- Print a register table. A declaration without registers need not be one that can be planned. -/
def runListRegisters (files : Files.Tree) (path : String) (sorting : Sorting) : Course :=
  withDeclaration files path fun d =>
    if d.registers.isEmpty then print "regfilegen: no registers found in input\n"
    else
      let headline := "invalid declaration: " ++ path
      attempt headline (planDeclaration d .standard) fun p =>
        attempt headline (tableLines p sorting) fun lines => print (joinLines lines)

/-- Write a register file and print nothing. -/
def runGenerateToFile (files : Files.Tree) (path output : String) (o : Options) :
    Course × Files.Tree :=
  let (result, files') := generateToFile files path output o
  let headline := "could not generate " ++ output ++ " from " ++ path
  (attempt headline result fun _ => print "", files')

/-- What a command tells, how it ends, and the files afterwards. -/
def runCommand (files : Files.Tree) : Command → Course × Files.Tree
  | .generate path none overrides template =>
    (runGenerate files path (optionsOf overrides template), files)
  | .generate path (some output) overrides template =>
    runGenerateToFile files path output (optionsOf overrides template)
  | .plan path overrides json => (runPlan files path (optionsOf overrides none) json, files)
  | .listRegisters path sorting => (runListRegisters files path sorting, files)
  | .sample => (print (Declaration.sample.toJson.pretty 4 ++ "\n"), files)

/-! ## Reports -/

/-- What the program prints and how it ends. -/
structure Report where
  exitCode : Nat
  /-- The text printed to the standard output. -/
  output : String
  /-- The text printed to the standard error output. -/
  errorOutput : String
  /-- The files afterwards. -/
  files : Files.Tree

/-- The exit code of a command that succeeds. -/
def exitSuccess : Nat := 0

/-- The exit code of a command that fails. -/
def exitFailure : Nat := 1

/-- The exit code where the arguments are no command. -/
def exitUsage : Nat := 2

/-- The exit code of a command that breaks off. -/
def exitBrokenOff : Nat := 101

/-- The report on a list of arguments. -/
def run (files : Files.Tree) (arguments : List String) : Report :=
  match parse arguments with
  | none => ⟨exitUsage, "", "error: the arguments are no command\n", files⟩
  | some invocation =>
    let (course, files') := runCommand files invocation.command
    let told := eventsText invocation.threshold course.events
    match course.ending with
    | .printed text => ⟨exitSuccess, text, told, files'⟩
    | .complained c => ⟨exitFailure, "", told ++ c.text, files'⟩
    | .brokenOff cause =>
      ⟨exitBrokenOff, "", told ++ cause.message ++ "\n", files'⟩

end RegisterFile.CommandLine

import RegisterFile.CommandLine.Run
import RegisterFile.Proofs.CommandLine.Spelling
import RegisterFile.Proofs.EntryPoints
import RegisterFile.Proofs.Vhdl.TemplateLines

set_option autoImplicit false

/-!
# Commands on the same file

The commands that render a declaration, write its register file or plan it take different ways, but
all of them read the declaration and plan it, and behind a plan that fits nothing can go wrong but
writing. So on a file they all succeed or all fail, and those that print or write the same thing
agree in it. The list of registers needs a plan as well, unless there are no registers.

Whether a command succeeds is read off its course: it ends with a printed text exactly if all its
stages have results, and it breaks off exactly if one of them does.

## Main definitions

* `Declares`, `Plans` - a file holds a declaration, and one that has a plan.
* `CommandLine.FollowsPlan` - a command succeeds exactly if there is a plan.

## Main results

* `CommandLine.attempt_eq_printed_iff`, `CommandLine.attempt_eq_brokenOff_iff` - how a command ends.
* `CommandLine.commands_agree` - the commands agree.
-/

namespace RegisterFile

open Logged

/-! ## Declarations and plans -/

/-- The file that a path leads to holds the text of a declaration. -/
def Declares (files : Files.Tree) (path : String) (d : Declaration) : Prop :=
  ∃ text, files.readText path = .ok text ∧ Declaration.parse text = .ok d

/-- The file that a path leads to holds the text of a declaration that can be planned with some
options. -/
def Plans (files : Files.Tree) (path : String) (o : Options) (p : Plan) : Prop :=
  ∃ d, Declares files path d ∧ (planDeclaration d o).outcome = .ok p

section

variable {files : Files.Tree} {path : String} {d : Declaration} {o : Options}

/-- A declaration is read from a file that holds one. -/
lemma outcome_readDeclaration_eq_ok_iff :
    (readDeclaration files path).outcome = .ok d ↔ Declares files path d := by
  rw [outcome_readDeclaration, bind_eq_ok_iff]
  simp only [mapError_eq_ok_iff, Declares]

/-- Reading a declaration does not break off. -/
lemma outcome_readDeclaration_ne (files : Files.Tree) (path : String) (cause : Breakdown) :
    (readDeclaration files path).outcome ≠ .error (.brokenOff cause) := by
  rw [outcome_readDeclaration, Ne, bind_eq_error_iff]
  simp only [mapError_eq_error_iff]
  rintro (⟨fault, -, heq⟩ | ⟨text, -, fault, -, heq⟩)
  · cases heq
  · cases heq

/-- Planning a declaration does not break off. -/
lemma outcome_planDeclaration_ne (d : Declaration) (o : Options) (cause : Breakdown) :
    (planDeclaration d o).outcome ≠ .error (.brokenOff cause) := by
  rw [outcome_planDeclaration, Ne, mapError_eq_error_iff]
  rintro ⟨fault, -, heq⟩
  cases heq

/-- Behind a plan that fits, generation with the standard template yields the text of the plan. -/
lemma outcome_generate_of_fits (files : Files.Tree) (htemplate : o.template = .standard)
    (hfits : ∀ p, (planDeclaration d o).outcome = .ok p → Vhdl.Fits p) :
    (generate files d o).outcome =
      (planDeclaration d o).outcome >>= fun p => .ok p.registerFileText := by
  cases hplan : (planDeclaration d o).outcome with
  | error failure =>
    rw [outcome_generate, hplan]
    rfl
  | ok p =>
    obtain ⟨renderer, hrenderer, hrender⟩ := p.exists_standard_render (hfits p hplan)
    rw [outcome_generate_standard files htemplate hplan hrenderer, hrender]
    rfl

/-- The text of a plan that fits is generated from the file of its declaration. -/
lemma outcome_generateFromFile_of_fits (htemplate : o.template = .standard)
    (hfits : ∀ p, Plans files path o p → Vhdl.Fits p) :
    (generateFromFile files path o).outcome = (readDeclaration files path).outcome >>= fun d =>
      (planDeclaration d o).outcome >>= fun p => .ok (p, p.registerFileText) := by
  simp only [generateFromFile, outcome_bind, outcome_pure]
  cases hread : (readDeclaration files path).outcome with
  | error failure => rfl
  | ok d =>
    rw [ok_bind, ok_bind]
    cases hplan : (planDeclaration d o).outcome with
    | error failure => rfl
    | ok p =>
      have hfits' := hfits p ⟨d, outcome_readDeclaration_eq_ok_iff.mp hread, hplan⟩
      obtain ⟨renderer, hrenderer, hrender⟩ := p.exists_standard_render hfits'
      rw [ok_bind, ok_bind, htemplate, TemplateSource.load, hrenderer, outcome_ofExcept]
      change (renderer.render p).outcome >>= _ = _
      rw [hrender]
      rfl

end

namespace CommandLine

/-! ## Courses -/

section

variable {α : Type} {headline text : String} {x : Logged α} {next : α → Course}
  {files : Files.Tree} {path : String} {cause : Breakdown}

/-- A failure that breaks off ends a command that way, and no other failure does. -/
lemma ofFailure_eq_brokenOff_iff {failure : Failure} :
    Ending.ofFailure headline failure = .brokenOff cause ↔ failure = .brokenOff cause := by
  cases failure <;> simp [Ending.ofFailure]

/-- A command that goes on with a result prints what it goes on to print. -/
theorem attempt_eq_printed_iff :
    (attempt headline x next).ending = .printed text ↔
      ∃ a, x.outcome = .ok a ∧ (next a).ending = .printed text := by
  unfold attempt
  cases x.outcome with
  | ok a => simp
  | error failure => cases failure <;> simp [Ending.ofFailure]

/-- A command that goes on with a result breaks off if its first part or what it goes on to do
breaks off. -/
theorem attempt_eq_brokenOff_iff :
    (attempt headline x next).ending = .brokenOff cause ↔
      x.outcome = .error (.brokenOff cause) ∨
        ∃ a, x.outcome = .ok a ∧ (next a).ending = .brokenOff cause := by
  unfold attempt
  cases x.outcome with
  | ok a => simp
  | error failure => simp [ofFailure_eq_brokenOff_iff]

/-- A command that goes on with the declaration in a file prints what it goes on to print. -/
lemma withDeclaration_eq_printed_iff (hfile : files.isFile path) {next : Declaration → Course} :
    (withDeclaration files path next).ending = .printed text ↔
      ∃ d, Declares files path d ∧ (next d).ending = .printed text := by
  rw [withDeclaration, if_pos hfile, attempt_eq_printed_iff]
  simp only [outcome_readDeclaration_eq_ok_iff]

/-- A command that goes on with the declaration in a file breaks off if what it goes on to do breaks
off. -/
lemma withDeclaration_eq_brokenOff_iff (hfile : files.isFile path) {next : Declaration → Course} :
    (withDeclaration files path next).ending = .brokenOff cause ↔
      ∃ d, Declares files path d ∧ (next d).ending = .brokenOff cause := by
  rw [withDeclaration, if_pos hfile, attempt_eq_brokenOff_iff,
    or_iff_right (outcome_readDeclaration_ne files path cause)]
  simp only [outcome_readDeclaration_eq_ok_iff]

end

/-! ## Commands that follow a plan -/

/-- A command succeeds exactly if the declaration in a file has a plan, and prints what `shown`
makes of it. It does not break off. -/
structure FollowsPlan (files : Files.Tree) (path : String) (o : Options) (shown : Plan → String)
    (c : Course) : Prop where
  printed_iff : ∀ text, c.ending = .printed text ↔ ∃ p, Plans files path o p ∧ text = shown p
  ne_brokenOff : ∀ cause, c.ending ≠ .brokenOff cause

section

variable {files : Files.Tree} {path : String} {o : Options} {shown : Plan → String}

/-- A command on the declaration in a file follows the plan if what it does with the declaration
does. -/
lemma followsPlan_withDeclaration (hfile : files.isFile path) {next : Declaration → Course}
    (hprinted : ∀ d, Declares files path d → ∀ text, (next d).ending = .printed text ↔
      ∃ p, (planDeclaration d o).outcome = .ok p ∧ text = shown p)
    (hbroken : ∀ d, Declares files path d → ∀ cause, (next d).ending ≠ .brokenOff cause) :
    FollowsPlan files path o shown (withDeclaration files path next) where
  printed_iff text := by
    rw [withDeclaration_eq_printed_iff hfile]
    constructor
    · rintro ⟨d, hd, hending⟩
      obtain ⟨p, hp, rfl⟩ := (hprinted d hd text).mp hending
      exact ⟨p, ⟨d, hd, hp⟩, rfl⟩
    · rintro ⟨p, ⟨d, hd, hp⟩, rfl⟩
      exact ⟨d, hd, (hprinted d hd _).mpr ⟨p, hp, rfl⟩⟩
  ne_brokenOff cause := by
    rw [Ne, withDeclaration_eq_brokenOff_iff hfile]
    rintro ⟨d, hd, hending⟩
    exact hbroken d hd cause hending

/-- The command that renders a declaration. -/
lemma followsPlan_runGenerate (hfile : files.isFile path) (htemplate : o.template = .standard)
    (hfits : ∀ p, Plans files path o p → Vhdl.Fits p) :
    FollowsPlan files path o Plan.registerFileText (runGenerate files path o) := by
  have hgenerate : ∀ d, Declares files path d → (generate files d o).outcome =
      (planDeclaration d o).outcome >>= fun p => .ok p.registerFileText := fun d hd =>
    outcome_generate_of_fits files htemplate fun p hp => hfits p ⟨d, hd, hp⟩
  refine followsPlan_withDeclaration hfile (fun d hd text => ?_) fun d hd cause => ?_
  · rw [attempt_eq_printed_iff, hgenerate d hd]
    simp only [bind_eq_ok_iff, Except.ok.injEq, print, Ending.printed.injEq]
    constructor
    · rintro ⟨_, ⟨p, hp, rfl⟩, rfl⟩
      exact ⟨p, hp, rfl⟩
    · rintro ⟨p, hp, rfl⟩
      exact ⟨_, ⟨p, hp, rfl⟩, rfl⟩
  · rw [Ne, attempt_eq_brokenOff_iff, hgenerate d hd, bind_eq_error_iff]
    simp only [outcome_planDeclaration_ne, print, reduceCtorEq, and_false, exists_false, or_false,
      not_false_eq_true]

/-- The command that plans a declaration. -/
lemma followsPlan_runPlan (hfile : files.isFile path) (json : Bool) :
    FollowsPlan files path o (fun p => if json then p.toJson.pretty 4 ++ "\n" else planText p)
      (runPlan files path o json) := by
  refine followsPlan_withDeclaration hfile (fun d hd text => ?_) fun d hd cause => ?_
  · rw [attempt_eq_printed_iff]
    simp only [print, Ending.printed.injEq, eq_comm]
  · rw [Ne, attempt_eq_brokenOff_iff]
    simp only [outcome_planDeclaration_ne, print, reduceCtorEq, and_false, exists_false, or_false,
      not_false_eq_true]

/-- The command that writes a register file prints nothing, and writes the text of the plan. -/
lemma followsPlan_runGenerateToFile (htemplate : o.template = .standard)
    (hfits : ∀ p, Plans files path o p → Vhdl.Fits p) {output : String}
    (hwritable : files.IsWritable output) :
    FollowsPlan files path o (fun _ => "") (runGenerateToFile files path output o).1 ∧
      ∀ p, Plans files path o p →
        (runGenerateToFile files path output o).2.readText output = .ok p.registerFileText := by
  have hgenerated := outcome_generateFromFile_of_fits htemplate hfits
  have hplans : ∀ p s, (generateFromFile files path o).outcome = .ok (p, s) ↔
      Plans files path o p ∧ s = p.registerFileText := by
    intro p s
    simp only [hgenerated, bind_eq_ok_iff, outcome_readDeclaration_eq_ok_iff, Except.ok.injEq,
      Prod.mk.injEq]
    constructor
    · rintro ⟨d, hd, q, hq, rfl, rfl⟩
      exact ⟨⟨d, hd, hq⟩, rfl⟩
    · rintro ⟨⟨d, hd, hp⟩, rfl⟩
      exact ⟨d, hd, p, hp, rfl, rfl⟩
  refine ⟨⟨fun text => ?_, fun cause => ?_⟩, fun p hp => ?_⟩
  · rw [runGenerateToFile, attempt_eq_printed_iff]
    simp only [print, Ending.printed.injEq]
    constructor
    · rintro ⟨p, hp, rfl⟩
      obtain ⟨s, hs, -⟩ := exists_written_of_generateToFile hp
      exact ⟨p, ((hplans p s).mp hs).1, rfl⟩
    · rintro ⟨p, hp, rfl⟩
      exact ⟨p, (generateToFile_of_ok ((hplans p _).mpr ⟨hp, rfl⟩) hwritable).1, rfl⟩
  · rw [runGenerateToFile, Ne, attempt_eq_brokenOff_iff]
    rintro (hbroken | ⟨p, -, hending⟩)
    · cases hrun : (generateFromFile files path o).outcome with
      | ok generated =>
        have hok := (generateToFile_of_ok hrun hwritable).1
        exact absurd (hok.symm.trans hbroken) nofun
      | error failure =>
        obtain rfl : failure = .brokenOff cause :=
          Except.error.inj ((outcome_generateToFile_of_error hrun).symm.trans hbroken)
        simp only [hgenerated, bind_eq_error_iff, outcome_readDeclaration_ne,
          outcome_planDeclaration_ne, reduceCtorEq, and_false, exists_false, or_false] at hrun
    · cases hending
  · exact (generateToFile_of_ok ((hplans p _).mpr ⟨hp, rfl⟩) hwritable).2

end

/-! ## Reports -/

section

variable {files : Files.Tree} {arguments : List String} {command : Command}

/-- The report on a command that prints a text. -/
lemma run_of_printed (h : Spells arguments command) {text : String}
    (hending : (runCommand files command).1.ending = .printed text) :
    (run files arguments).exitCode = exitSuccess ∧ (run files arguments).output = text ∧
      (run files arguments).files = (runCommand files command).2 := by
  obtain ⟨threshold, hparse⟩ := h
  unfold run
  simp only [hparse, hending, and_self]

/-- The report on a command that neither prints nor breaks off. -/
lemma run_of_complained (h : Spells arguments command)
    (hprinted : ∀ text, (runCommand files command).1.ending ≠ .printed text)
    (hbroken : ∀ cause, (runCommand files command).1.ending ≠ .brokenOff cause) :
    (run files arguments).exitCode = exitFailure := by
  obtain ⟨threshold, hparse⟩ := h
  unfold run
  simp only [hparse]
  cases hending : (runCommand files command).1.ending with
  | printed text => exact absurd hending (hprinted text)
  | brokenOff cause => exact absurd hending (hbroken cause)
  | complained c => rfl

/-- A command that does not break off succeeds exactly if it prints. -/
lemma exitCode_eq_exitSuccess_iff (h : Spells arguments command)
    (hbroken : ∀ cause, (runCommand files command).1.ending ≠ .brokenOff cause) :
    (run files arguments).exitCode = exitSuccess ↔
      ∃ text, (runCommand files command).1.ending = .printed text := by
  constructor
  · intro hexit
    by_contra hprinted
    have hfailure := run_of_complained h (fun text htext => hprinted ⟨text, htext⟩) hbroken
    exact absurd (hexit.symm.trans hfailure) (by decide)
  · rintro ⟨text, htext⟩
    exact (run_of_printed h htext).1

/-- The report on a command that follows a plan. -/
lemma FollowsPlan.run {path : String} {o : Options} {shown : Plan → String}
    (h : FollowsPlan files path o shown (runCommand files command).1)
    (hspells : Spells arguments command) :
    (∀ p, Plans files path o p →
      (run files arguments).exitCode = exitSuccess ∧ (run files arguments).output = shown p ∧
        (run files arguments).files = (runCommand files command).2) ∧
    ((¬ ∃ p, Plans files path o p) → (run files arguments).exitCode = exitFailure) := by
  refine ⟨fun p hp => run_of_printed hspells ((h.printed_iff _).mpr ⟨p, hp, rfl⟩), fun hnone => ?_⟩
  refine run_of_complained hspells (fun text hending => hnone ?_) h.ne_brokenOff
  obtain ⟨p, hp, -⟩ := (h.printed_iff text).mp hending
  exact ⟨p, hp⟩

end

/-! ## The list of registers -/

/-- The line of a register has no line breaks but those of its label and its mode. -/
lemma unbroken_registerLine {r : Register} (hlabel : Unbroken r.label)
    (htag : Unbroken r.mode.tag) (column : Nat) : Unbroken (registerLine column r) := by
  have haddress : Unbroken (Numeral.paddedHex 6 r.address.toNat) := by
    simpa [Unbroken, Numeral.paddedHex, Numeral.zeroPadded] using
      (Numeral.newline_notMem_digits (by decide : 1 < 16) (by decide) r.address.toNat).1
  have hinitval : Unbroken (Numeral.hex r.initval.toNat) := unbroken_hex r.initval.toNat
  unfold Unbroken at hlabel htag haddress hinitval ⊢
  simp [registerLine, haddress, hlabel, htag, hinitval]

/-- Lines without line breaks are printed with as many line feeds. -/
lemma count_newline_joinLines {lines : List String} (h : ∀ line ∈ lines, Unbroken line) :
    (joinLines lines).toList.count '\n' = lines.length := by
  induction lines with
  | nil => rfl
  | cons line lines ih =>
    have hline : line.toList.count '\n' = 0 :=
      List.count_eq_zero.mpr (h line List.mem_cons_self)
    have hrest := ih fun l hl => h l (List.mem_cons_of_mem line hl)
    have hjoin : joinLines (line :: lines) = line ++ "\n" ++ joinLines lines := by
      simp [joinLines, String.join_cons]
    have hfeed : "\n".toList = ['\n'] := rfl
    rw [hjoin, String.toList_append, String.toList_append, List.count_append, List.count_append,
      hline, hrest, hfeed, List.length_cons, List.count_singleton_self]
    omega

/-- A text is printed with exactly one line for each of some registers. It has no other line feeds
unless labels or modes have some. -/
structure HasLineForEach (registers : List Register) (text : String) : Prop where
  eq_joinLines : ∃ column rs, List.Perm rs registers ∧
    text = joinLines (rs.map (registerLine column))
  count_newline : (∀ r ∈ registers, Unbroken r.label ∧ Unbroken r.mode.tag) →
    text.toList.count '\n' = registers.length

/-- The lines of registers in some order are lines for each of them. -/
lemma hasLineForEach_of_perm {rs registers : List Register} (h : rs.Perm registers)
    (column : Nat) : HasLineForEach registers (joinLines (rs.map (registerLine column))) where
  eq_joinLines := ⟨column, rs, h, rfl⟩
  count_newline hunbroken := by
    rw [count_newline_joinLines, List.length_map, h.length_eq]
    intro line hline
    obtain ⟨r, hr, rfl⟩ := List.mem_map.mp hline
    obtain ⟨hlabel, htag⟩ := hunbroken r (h.mem_iff.mp hr)
    exact unbroken_registerLine hlabel htag column

section

variable {files : Files.Tree} {path : String} {sorting : Sorting}

/-- The table of a plan whose labels fit their column. -/
lemma outcome_tableLines_of_fits {p : Plan} (h : p.labelColumn ≤ Text.widestField)
    (sorting : Sorting) :
    (tableLines p sorting).outcome = .ok ((p.sorted sorting).map (registerLine p.labelColumn)) := by
  rw [tableLines, outcome_ofExcept, registerTable_eq_ok h]
  rfl

/-- What the list of registers is for a declaration: a note if it has none, and otherwise the table
of its plan. -/
inductive ListsRegisters (sorting : Sorting) (d : Declaration) (text : String) : Prop where
  | none (registers_eq : d.registers = [])
      (text_eq : text = "regfilegen: no registers found in input\n")
  | table (registers_ne : d.registers ≠ []) {p : Plan}
      (planned : (planDeclaration d .standard).outcome = .ok p)
      (text_eq : text = joinLines ((p.sorted sorting).map (registerLine p.labelColumn)))

/-- The command that lists registers prints the list for the declaration in the file. -/
lemma runListRegisters_eq_printed_iff (hfile : files.isFile path)
    (hcolumn : ∀ p, Plans files path .standard p → p.labelColumn ≤ Text.widestField)
    {text : String} : (runListRegisters files path sorting).ending = .printed text ↔
      ∃ d, Declares files path d ∧ ListsRegisters sorting d text := by
  rw [runListRegisters, withDeclaration_eq_printed_iff hfile]
  refine exists_congr fun d => and_congr_right fun hd => ?_
  by_cases hempty : d.registers = []
  · rw [if_pos (List.isEmpty_iff.mpr hempty)]
    simp only [print, Ending.printed.injEq]
    constructor
    · exact fun htext => .none hempty htext.symm
    · rintro (⟨-, rfl⟩ | ⟨hne, -, -⟩)
      · rfl
      · exact absurd hempty hne
  · rw [if_neg fun h => hempty (List.isEmpty_iff.mp h)]
    simp only [attempt_eq_printed_iff, print, Ending.printed.injEq]
    constructor
    · rintro ⟨p, hp, lines, hlines, rfl⟩
      rw [outcome_tableLines_of_fits (hcolumn p ⟨d, hd, hp⟩)] at hlines
      exact .table hempty hp (by rw [Except.ok.inj hlines])
    · rintro (⟨heq, -⟩ | ⟨-, hp, rfl⟩)
      · exact absurd heq hempty
      · exact ⟨_, hp, _, outcome_tableLines_of_fits (hcolumn _ ⟨d, hd, hp⟩) sorting, rfl⟩

/-- The command that lists registers does not break off. -/
lemma runListRegisters_ne_brokenOff (hfile : files.isFile path)
    (hcolumn : ∀ p, Plans files path .standard p → p.labelColumn ≤ Text.widestField)
    (cause : Breakdown) : (runListRegisters files path sorting).ending ≠ .brokenOff cause := by
  rw [runListRegisters, Ne, withDeclaration_eq_brokenOff_iff hfile]
  rintro ⟨d, hd, hending⟩
  split at hending
  · cases hending
  · simp only [attempt_eq_brokenOff_iff, outcome_planDeclaration_ne, false_or] at hending
    obtain ⟨p, hp, hlines | ⟨lines, -, hprint⟩⟩ := hending
    · rw [outcome_tableLines_of_fits (hcolumn p ⟨d, hd, hp⟩)] at hlines
      cases hlines
    · cases hprint

end

/-- A file holds one declaration at most. -/
lemma eq_of_declares {files : Files.Tree} {path : String} {d d' : Declaration}
    (h : Declares files path d) (h' : Declares files path d') : d = d' := by
  rw [← outcome_readDeclaration_eq_ok_iff] at h h'
  exact Except.ok.inj (h.symm.trans h')

/-- There is a list of registers exactly if there are none or they can be planned. -/
lemma exists_listsRegisters_iff (sorting : Sorting) {d : Declaration} :
    (∃ text, ListsRegisters sorting d text) ↔
      d.registers = [] ∨ ∃ p, plan d.moduleName d.registers d.registerWidth = .ok p := by
  have hplanned : ∀ p, (planDeclaration d .standard).outcome = .ok p ↔
      plan d.moduleName d.registers d.registerWidth = .ok p := fun p => by
    rw [outcome_planDeclaration, mapError_eq_ok_iff]
    rfl
  constructor
  · rintro ⟨text, ⟨hempty, -⟩ | ⟨-, hp, -⟩⟩
    · exact .inl hempty
    · exact .inr ⟨_, (hplanned _).mp hp⟩
  · intro h
    by_cases hempty : d.registers = []
    · exact ⟨_, .none hempty rfl⟩
    · obtain ⟨p, hp⟩ := h.resolve_left hempty
      exact ⟨_, .table hempty ((hplanned p).mpr hp) rfl⟩

section

variable {files : Files.Tree} {path : String} {sorting : Sorting} {listing : List String}

/-- The list of registers succeeds exactly if there are none or the declaration has a plan of its
own. -/
lemma exitCode_listRegisters_iff (hlisting : Spells listing (.listRegisters path sorting))
    (hfile : files.isFile path)
    (hcolumn : ∀ p, Plans files path .standard p → p.labelColumn ≤ Text.widestField) :
    (run files listing).exitCode = exitSuccess ↔ ∃ d, Declares files path d ∧
      (d.registers = [] ∨ ∃ p, plan d.moduleName d.registers d.registerWidth = .ok p) := by
  rw [exitCode_eq_exitSuccess_iff hlisting (runListRegisters_ne_brokenOff hfile hcolumn)]
  simp only [← exists_listsRegisters_iff sorting]
  constructor
  · rintro ⟨text, htext⟩
    obtain ⟨d, hd, hlists⟩ := (runListRegisters_eq_printed_iff hfile hcolumn).mp htext
    exact ⟨d, hd, text, hlists⟩
  · rintro ⟨d, hd, text, hlists⟩
    exact ⟨text, (runListRegisters_eq_printed_iff hfile hcolumn).mpr ⟨d, hd, hlists⟩⟩

/-- A list of registers that succeeds has a line for each of them, if there are any. -/
lemma hasLineForEach_of_exitSuccess (hlisting : Spells listing (.listRegisters path sorting))
    (hfile : files.isFile path)
    (hcolumn : ∀ p, Plans files path .standard p → p.labelColumn ≤ Text.widestField)
    {d : Declaration} (hd : Declares files path d) (hne : d.registers ≠ [])
    (hsuccess : (run files listing).exitCode = exitSuccess) :
    HasLineForEach d.registers (run files listing).output := by
  rw [exitCode_eq_exitSuccess_iff hlisting (runListRegisters_ne_brokenOff hfile hcolumn)]
    at hsuccess
  obtain ⟨text, htext⟩ := hsuccess
  obtain ⟨d', hd', hlists⟩ := (runListRegisters_eq_printed_iff hfile hcolumn).mp htext
  obtain rfl := eq_of_declares hd hd'
  rw [(run_of_printed hlisting htext).2.1]
  cases hlists with
  | none hempty => exact absurd hempty hne
  | @table _ p hp htable =>
    rw [outcome_planDeclaration, mapError_eq_ok_iff] at hp
    obtain ⟨-, hregisters, -⟩ := plan_eq_ok hp
    rw [htable, ← hregisters]
    exact hasLineForEach_of_perm (p.perm_sorted sorting) p.labelColumn

end

/-! ## Agreement -/

/-- **The commands agree.** On a file, the commands that render a declaration to the output or into
a file and those that print its plan all succeed, if the declaration has a plan with the overrides,
or all fail. Where they succeed, what is written is what is printed, and the plan as JSON is that of
the declaration. The list of registers succeeds exactly if there are no registers or the declaration
has a plan of its own, and then it has exactly one line for each register. No field of a plan may be
too wide. -/
theorem commands_agree {files : Files.Tree} {path : String} (hfile : files.isFile path) :
    (∀ (overrides : Overrides) (output : String), files.IsWritable output →
      (∀ p, Plans files path (optionsOf overrides none) p → Vhdl.Fits p) →
      ∀ printing writing planning planningJson : List String,
        Spells printing (.generate path none overrides none) →
        Spells writing (.generate path (some output) overrides none) →
        Spells planning (.plan path overrides false) →
        Spells planningJson (.plan path overrides true) →
          ((∃ p, Plans files path (optionsOf overrides none) p ∧
              (run files planningJson).output = p.toJson.pretty 4 ++ "\n") ∧
            (run files writing).files.readText output = .ok (run files printing).output ∧
            ∀ arguments ∈ [printing, writing, planning, planningJson],
              (run files arguments).exitCode = exitSuccess) ∨
          ((¬ ∃ p, Plans files path (optionsOf overrides none) p) ∧
            ∀ arguments ∈ [printing, writing, planning, planningJson],
              (run files arguments).exitCode = exitFailure)) ∧
    ∀ (sorting : Sorting) (listing : List String), Spells listing (.listRegisters path sorting) →
      (∀ p, Plans files path .standard p → p.labelColumn ≤ Text.widestField) →
        ((run files listing).exitCode = exitSuccess ↔ ∃ d, Declares files path d ∧
          (d.registers = [] ∨ ∃ p, plan d.moduleName d.registers d.registerWidth = .ok p)) ∧
        ∀ d, Declares files path d → d.registers ≠ [] →
          (run files listing).exitCode = exitSuccess →
            HasLineForEach d.registers (run files listing).output := by
  constructor
  · intro overrides output hwritable hfits printing writing planning planningJson hprinting hwriting
      hplanning hplanningJson
    obtain ⟨hwritten, htext⟩ := followsPlan_runGenerateToFile rfl hfits hwritable
    obtain ⟨hprints, hprintsNot⟩ := (followsPlan_runGenerate hfile rfl hfits).run hprinting
    obtain ⟨hwrites, hwritesNot⟩ := hwritten.run hwriting
    obtain ⟨hplans, hplansNot⟩ := (followsPlan_runPlan hfile false).run hplanning
    obtain ⟨hplansJson, hplansJsonNot⟩ := (followsPlan_runPlan hfile true).run hplanningJson
    simp only [List.forall_mem_cons, List.not_mem_nil, false_implies, implies_true, and_true]
    by_cases hp : ∃ p, Plans files path (optionsOf overrides none) p
    · obtain ⟨p, hp⟩ := hp
      refine .inl ⟨⟨p, hp, (hplansJson p hp).2.1⟩, ?_, (hprints p hp).1, (hwrites p hp).1,
        (hplans p hp).1, (hplansJson p hp).1⟩
      rw [(hwrites p hp).2.2, (hprints p hp).2.1]
      exact htext p hp
    · exact .inr ⟨hp, hprintsNot hp, hwritesNot hp, hplansNot hp, hplansJsonNot hp⟩
  · exact fun sorting listing hlisting hcolumn =>
      ⟨exitCode_listRegisters_iff hlisting hfile hcolumn, fun d hd hne hsuccess =>
        hasLineForEach_of_exitSuccess hlisting hfile hcolumn hd hne hsuccess⟩

/-- The commands agree on the file of the sample declaration with another module name, and list its
registers by their labels. -/
theorem commands_agree_sample :
    ∃ p : Plan, Files.Tree.sample.isFile "regfile.json" ∧
      Plans .sample "regfile.json" (optionsOf ⟨some "top", none⟩ none) p ∧
      (run .sample ["gen", "regfile.json", "--module", "top", "-ohdl/regfile.vhd"]).files.readText
        "hdl/regfile.vhd" = .ok (run .sample ["gen", "--module=top", "regfile.json"]).output ∧
      (run .sample ["-v", "plan", "--module=top", "regfile.json"]).exitCode = 0 ∧
      (run .sample ["plan", "--json", "--module=top", "regfile.json"]).output =
        p.toJson.pretty 4 ++ "\n" ∧
      (run .sample ["ls-registers", "--sorting", "alpha", "regfile.json"]).exitCode = 0 ∧
      HasLineForEach Declaration.sample.registers
        (run .sample ["ls-registers", "--sorting", "alpha", "regfile.json"]).output := by
  have hfile : Files.Tree.sample.isFile "regfile.json" := rfl
  have hwritable := Files.Tree.isWritable_holding Declaration.sample.toJson.compact
  have hdeclares : Declares .sample "regfile.json" .sample :=
    ⟨_, Files.Tree.readText_holding _, Declaration.parse_sample⟩
  have hsmall : ∀ o p, o.registerWidth = none → Plans .sample "regfile.json" o p →
      Vhdl.Fits p := by
    rintro o p ho ⟨d, hd, hp⟩
    obtain rfl := eq_of_declares hdeclares hd
    rw [outcome_planDeclaration, mapError_eq_ok_iff, ho] at hp
    obtain ⟨-, hregisters, hbits⟩ := plan_eq_ok hp
    exact (Vhdl.fits_iff p).mpr (by rw [hregisters, hbits]; decide)
  obtain ⟨p, hp⟩ : ∃ p, (planDeclaration .sample (optionsOf ⟨some "top", none⟩ none)).outcome =
      .ok p := ⟨_, rfl⟩
  obtain ⟨hcommands, hlisting⟩ := commands_agree hfile
  have hlists := hlisting .alpha ["ls-registers", "--sorting", "alpha", "regfile.json"]
    ⟨some .warning, rfl⟩ fun p hp => (hsmall _ p rfl hp).column
  have hsuccess := hlists.1.mpr ⟨.sample, hdeclares, .inr ⟨_, rfl⟩⟩
  have hlines := hlists.2 .sample hdeclares (List.cons_ne_nil _ _) hsuccess
  rcases hcommands ⟨some "top", none⟩ "hdl/regfile.vhd" hwritable (fun p hp => hsmall _ p rfl hp)
    ["gen", "--module=top", "regfile.json"]
    ["gen", "regfile.json", "--module", "top", "-ohdl/regfile.vhd"]
    ["-v", "plan", "--module=top", "regfile.json"]
    ["plan", "--json", "--module=top", "regfile.json"]
    ⟨some .warning, rfl⟩ ⟨some .warning, rfl⟩ ⟨some .info, rfl⟩ ⟨some .warning, rfl⟩ with
    ⟨⟨q, hq, hjson⟩, hwritten, hcodes⟩ | ⟨hnone, -⟩
  · exact ⟨q, hfile, hq, hwritten, hcodes _ (by simp), hjson, hsuccess, hlines⟩
  · exact absurd ⟨p, .sample, hdeclares, hp⟩ hnone

end CommandLine

end RegisterFile

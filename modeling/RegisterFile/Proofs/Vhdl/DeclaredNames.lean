import RegisterFile.Proofs.Text.Uppercase
import RegisterFile.Proofs.Vhdl.StandardRendering
import RegisterFile.Proofs.Vhdl.TemplateLines

set_option autoImplicit false

/-!
# The names that a register file declares

The declarative parts of the entity and of the architecture stand in front of the body. They declare
one name a line: in front of a colon, as generics and ports do, or behind a word that says what is
declared. The lines of the frame declare the same names for every plan, and each register adds a
port and the constant of its index.

## Main definitions

* `Vhdl.declaredName?`, `Vhdl.declaredNames` - the name that a line declares, and those that some
  lines declare in front of the body.
* `Vhdl.frameNames` - the names that the frame declares.
* `Vhdl.isIdentifier` - a letter with letters, digits and underscores behind it.
* `Register.constantName` - the name of the constant for the index of a register.

## Main results

* `Vhdl.declaredName?_append` - what follows a colon does not matter.
* `Plan.declaredNames_perm` - the names that a register file declares.
-/

namespace RegisterFile

namespace Vhdl

/-! ## Reading declarations -/

/-- A character of a name: a letter, a digit or an underscore. -/
def isNameChar (c : Char) : Bool := c.isAlphanum || c = '_'

/-- A letter with letters, digits and underscores behind it. -/
def isIdentifier (s : String) : Bool :=
  s.toList.head?.any Char.isAlpha && s.toList.all isNameChar

/-- The word behind leading spaces, and what follows the spaces behind it. -/
def readWord (cs : List Char) : List Char × List Char :=
  let visible := cs.dropWhile (· = ' ')
  (visible.takeWhile isNameChar, (visible.dropWhile isNameChar).dropWhile (· = ' '))

/-- The words that say what is declared, in front of its name. -/
def declarationWords : List String := ["constant", "signal", "subtype", "type"]

/-- The name that a line of a declarative part declares. Declarations are indented. -/
def declaredName? (line : List Char) : Option String :=
  if line.head? = some ' ' then
    let (word, rest) := readWord line
    if rest.head? = some ':' then some (String.ofList word)
    else if String.ofList word ∈ declarationWords then some (String.ofList (readWord rest).1)
    else none
  else none

/-- The line that starts the body. -/
def bodyStart : List Char := ['b', 'e', 'g', 'i', 'n']

/-- The names that some lines declare in front of the body. -/
def declaredNames (lines : List (List Char)) : List String :=
  (lines.takeWhile (· ≠ bodyStart)).filterMap declaredName?

/-! ## What follows a colon -/

section

variable {c : Char} {cs : List Char} (p : Char → Bool) (ds : List Char)

/-- Dropping stops at a character that is not dropped, which keeps what follows it. -/
lemma dropWhile_append_of_mem (hc : c ∈ cs) (hp : p c = false) :
    (cs ++ ds).dropWhile p = cs.dropWhile p ++ ds ∧ c ∈ cs.dropWhile p := by
  have hmem : c ∈ cs.dropWhile p := by
    rw [← List.takeWhile_append_dropWhile (p := p) (l := cs), List.mem_append] at hc
    refine hc.resolve_left fun htake => ?_
    have hpos : p c = true := List.all_eq_true.mp List.all_takeWhile c htake
    simp [hp] at hpos
  refine ⟨?_, hmem⟩
  rw [List.dropWhile_append, if_neg (by simpa using List.ne_nil_of_mem hmem)]

/-- Taking stops at a character that is not taken. -/
lemma takeWhile_append_of_mem (hc : c ∈ cs) (hp : p c = false) :
    (cs ++ ds).takeWhile p = cs.takeWhile p := by
  rw [List.takeWhile_append, if_neg]
  intro hlength
  have hall : cs.takeWhile p = cs := (List.takeWhile_prefix p).eq_of_length hlength
  have hpos : p c = true := List.all_eq_true.mp List.all_takeWhile c (hall ▸ hc)
  simp [hp] at hpos

/-- A word in front of a colon does not depend on what follows the colon. -/
lemma readWord_append (hcs : ':' ∈ cs) :
    readWord (cs ++ ds) = ((readWord cs).1, (readWord cs).2 ++ ds) ∧ ':' ∈ (readWord cs).2 := by
  obtain ⟨hvisible, hmem⟩ := dropWhile_append_of_mem (· = ' ') ds hcs (by decide)
  obtain ⟨hrest, hmem'⟩ := dropWhile_append_of_mem isNameChar ds hmem (by decide)
  obtain ⟨hend, hmem''⟩ := dropWhile_append_of_mem (· = ' ') ds hmem' (by decide)
  refine ⟨?_, hmem''⟩
  rw [readWord, hvisible, takeWhile_append_of_mem isNameChar ds hmem (by decide), hrest, hend]
  rfl

/-- **What follows a colon does not matter to the name that a line declares.** -/
theorem declaredName?_append (hcs : ':' ∈ cs) : declaredName? (cs ++ ds) = declaredName? cs := by
  obtain ⟨hword, hmem⟩ := readWord_append ds hcs
  obtain ⟨hnext, -⟩ := readWord_append ds hmem
  have hcs_ne : cs ≠ [] := List.ne_nil_of_mem hcs
  have hrest_ne : (readWord cs).2 ≠ [] := List.ne_nil_of_mem hmem
  simp only [declaredName?, hword, hnext, List.head?_append_of_ne_nil _ hcs_ne,
    List.head?_append_of_ne_nil _ hrest_ne]

example : declaredName? "    C_S_AXI_DATA_WIDTH : integer := 32;".toList =
    some "C_S_AXI_DATA_WIDTH" := by
  decide +kernel

end

/-! ## Lines that start with a word -/

section

variable {word : List Char} (hword : ∀ c ∈ word, isNameChar c = true) (hne : word ≠ [])

/-- A line that is not indented declares nothing. -/
lemma declaredName?_of_head? {line : List Char} (h : line.head? ≠ some ' ') :
    declaredName? line = none :=
  if_neg h

include hword hne

/-- A word behind some spaces is read up to the first space behind it. -/
lemma readWord_spaces (indent gap : Nat) {rest : List Char} (hrest : rest.head? ≠ some ' ') :
    readWord (List.replicate indent ' ' ++ (word ++ (List.replicate gap ' ' ++ ' ' :: rest))) =
      (word, rest) := by
  have hspaces (n : Nat) (cs : List Char) :
      (List.replicate n ' ' ++ cs).dropWhile (· = ' ') = cs.dropWhile (· = ' ') :=
    List.dropWhile_append_of_pos fun c hc => by simpa using List.eq_of_mem_replicate hc
  have hvisible : (word ++ (List.replicate gap ' ' ++ ' ' :: rest)).dropWhile (· = ' ') =
      word ++ (List.replicate gap ' ' ++ ' ' :: rest) := by
    obtain ⟨c, cs, rfl⟩ := List.exists_cons_of_ne_nil hne
    have hc : c ≠ ' ' := fun h => absurd (h ▸ hword c List.mem_cons_self) (by decide)
    exact List.dropWhile_cons_of_neg (by simpa using hc)
  have hstop : (List.replicate gap ' ' ++ ' ' :: rest).takeWhile isNameChar = [] ∧
      (List.replicate gap ' ' ++ ' ' :: rest).dropWhile isNameChar =
        List.replicate gap ' ' ++ ' ' :: rest := by
    cases gap <;> exact ⟨rfl, rfl⟩
  have hend : (List.replicate gap ' ' ++ ' ' :: rest).dropWhile (· = ' ') = rest := by
    rw [hspaces]
    cases rest with
    | nil => rfl
    | cons c cs =>
      have hc : c ≠ ' ' := by simpa using hrest
      simp [hc]
  rw [readWord, hspaces, hvisible, List.takeWhile_append_of_pos hword, hstop.1, List.append_nil,
    List.dropWhile_append_of_pos hword, hstop.2, hend]

/-- What an indented line declares that starts with a word, by what follows the word. -/
lemma declaredName?_word (indent gap : Nat) {rest : List Char} (hrest : rest.head? ≠ some ' ') :
    declaredName? (List.replicate (indent + 1) ' ' ++
        (word ++ (List.replicate gap ' ' ++ ' ' :: rest))) =
      if rest.head? = some ':' then some (String.ofList word)
      else if String.ofList word ∈ declarationWords then some (String.ofList (readWord rest).1)
      else none := by
  rw [declaredName?, readWord_spaces hword hne (indent + 1) gap hrest]
  exact if_pos rfl

end

/-! ## The lines of the frame -/

/-- Whether a mark is a character of the frame. -/
def Mark.isChar : Mark → Bool
  | .char _ => true
  | _ => false

/-- The characters of a line in front of its first value. -/
def front : List Mark → List Char
  | .char c :: line => c :: front line
  | _ => []

/-- Whether the front of a line tells what the line declares and that it does not start the body,
whatever the values in it are. -/
def isSettled (line : List Mark) : Bool :=
  line.all Mark.isChar && front line ≠ bodyStart || ':' ∈ front line ||
    (front line).head?.any fun c => c ≠ ' ' && c ≠ 'b'

/-- Whether the lines of a section belong to a declarative part. -/
def Section.isDeclarative : Section → Bool
  | .header | .ports | .indices | .resetValues | .writable => true
  | .clears | .overrides | .outputs => false

namespace TemplateLine

/-- Whether a line of the template belongs to what is in front of the body. -/
def isDeclarative : TemplateLine → Bool
  | .frame line => isSettled line
  | .registers s => s.isDeclarative

/-- The name that a line of the frame declares. -/
def frameName? : TemplateLine → Option String
  | .frame line => declaredName? (front line)
  | .registers _ => none

/-- The section that a line stands for. -/
def section? : TemplateLine → Option Section
  | .frame _ => none
  | .registers s => some s

end TemplateLine

/-- The lines of the template in front of the body. -/
def declarations : List TemplateLine := templateLines.takeWhile TemplateLine.isDeclarative

/-- The names that the frame declares. -/
def frameNames : List String := [
  "C_S_AXI_DATA_WIDTH", "C_S_AXI_ADDR_WIDTH",
  "S_AXI_ACLK", "S_AXI_ARESETN",
  "S_AXI_AWADDR", "S_AXI_AWPROT", "S_AXI_AWVALID", "S_AXI_AWREADY",
  "S_AXI_WDATA", "S_AXI_WSTRB", "S_AXI_WVALID", "S_AXI_WREADY",
  "S_AXI_BRESP", "S_AXI_BVALID", "S_AXI_BREADY",
  "S_AXI_ARADDR", "S_AXI_ARPROT", "S_AXI_ARVALID", "S_AXI_ARREADY",
  "S_AXI_RDATA", "S_AXI_RRESP", "S_AXI_RVALID", "S_AXI_RREADY",
  "C_NUM_REGISTERS", "C_ADDR_LSB", "t_register", "t_register_file", "t_flags",
  "C_RESET_VALUES", "C_WRITABLE", "regs", "readback",
  "axi_awready", "axi_wready", "axi_bvalid", "axi_arready", "axi_rvalid", "axi_rdata"]

/-- What stands in front of the body: the names that the frame declares, the sections, and the line
that starts the body behind them. -/
lemma declarations_spec :
    declarations.filterMap TemplateLine.frameName? = frameNames ∧
      declarations.filterMap TemplateLine.section? =
        [.header, .ports, .indices, .resetValues, .writable] ∧
      (templateLines.dropWhile TemplateLine.isDeclarative).head? =
        some (.frame (bodyStart.map .char)) := by
  apply of_spelled (P := fun ms =>
    ((linesFrom [] ms).takeWhile TemplateLine.isDeclarative).filterMap TemplateLine.frameName? =
        frameNames ∧
      ((linesFrom [] ms).takeWhile TemplateLine.isDeclarative).filterMap TemplateLine.section? =
        [.header, .ports, .indices, .resetValues, .writable] ∧
      ((linesFrom [] ms).dropWhile TemplateLine.isDeclarative).head? =
        some (.frame (bodyStart.map .char)))
  · repeat constructor
  · decide +kernel

/-- The body starts behind the declarations. -/
lemma exists_templateLines_eq :
    ∃ rest, templateLines = declarations ++ .frame (bodyStart.map .char) :: rest := by
  obtain ⟨rest, hrest⟩ := List.head?_eq_some_iff.mp declarations_spec.2.2
  exact ⟨rest, by rw [declarations, ← hrest, List.takeWhile_append_dropWhile]⟩

end Vhdl

namespace Plan

open Vhdl

variable (p : Plan)

/-- A line starts with its front, which is all of a line that has only characters. -/
lemma exists_marksText_eq (line : List Mark) :
    ∃ rest, p.marksText line = front line ++ rest ∧
      (line.all Mark.isChar = true → rest = []) := by
  induction line with
  | nil => exact ⟨[], rfl, fun _ => rfl⟩
  | cons m line ih =>
    cases m with
    | char c =>
      obtain ⟨rest, hrest, hall⟩ := ih
      exact ⟨rest, congrArg (c :: ·) hrest, fun h => hall (Bool.and_eq_true_iff.mp h).2⟩
    | value v => exact ⟨_, rfl, fun h => absurd h (by simp [Mark.isChar])⟩
    | lines s => exact ⟨_, rfl, fun h => absurd h (by simp [Mark.isChar])⟩

/-- What a settled line declares can be read off its front, and the line does not start the
body. -/
lemma declaredName?_marksText {line : List Mark} (h : isSettled line = true) :
    declaredName? (p.marksText line) = declaredName? (front line) ∧
      p.marksText line ≠ bodyStart := by
  obtain ⟨rest, hrest, hall⟩ := p.exists_marksText_eq line
  rw [isSettled, Bool.or_eq_true, Bool.or_eq_true] at h
  rw [hrest]
  rcases h with (hchars | hcolon) | hhead
  · obtain ⟨hchars, hfront⟩ := Bool.and_eq_true_iff.mp hchars
    rw [hall hchars, List.append_nil]
    exact ⟨rfl, by simpa using hfront⟩
  · have hmem : ':' ∈ front line := by simpa using hcolon
    refine ⟨declaredName?_append rest hmem, fun heq => ?_⟩
    have hstart : ':' ∈ bodyStart := heq ▸ List.mem_append_left rest hmem
    exact absurd hstart (by decide)
  · cases hfront : front line with
    | nil => simp [hfront] at hhead
    | cons c cs =>
      obtain ⟨hspace, hb⟩ : c ≠ ' ' ∧ c ≠ 'b' := by simpa [hfront] using hhead
      refine ⟨?_, fun heq => hb (List.cons.inj heq).1⟩
      rw [declaredName?_of_head? (by simpa using hspace),
        declaredName?_of_head? (by simpa using hspace)]

end Plan

namespace Vhdl

/-! ## Identifiers in upper case -/

/-- The characters of names are among the first ones. -/
lemma toNat_lt_of_isNameChar {c : Char} (hc : isNameChar c = true) : c.toNat < 0x80 := by
  simp only [isNameChar, Char.isAlphanum, Char.isAlpha, Char.isUpper, Char.isLower, Char.isDigit,
    Bool.or_eq_true, Bool.and_eq_true, decide_eq_true_eq, UInt32.le_iff_toNat_le] at hc
  rcases hc with ((h | h) | h) | rfl
  · exact Nat.lt_of_le_of_lt h.2 (by decide)
  · exact Nat.lt_of_le_of_lt h.2 (by decide)
  · exact Nat.lt_of_le_of_lt h.2 (by decide)
  · decide

/-- A character of a name is one in upper case, which upper case leaves as it is. -/
lemma isNameChar_toUpper {c : Char} (hc : isNameChar c = true) :
    isNameChar c.toUpper = true ∧ c.toUpper.toUpper = c.toUpper := by
  refine Text.forall_ascii (P := fun c => isNameChar c = true →
    isNameChar c.toUpper = true ∧ c.toUpper.toUpper = c.toUpper) ?_ (toNat_lt_of_isNameChar hc) hc
  decide

variable {s : String} (hs : isIdentifier s = true)

include hs

/-- All characters of an identifier are characters of names. -/
lemma isNameChar_of_mem {c : Char} (hc : c ∈ s.toList) : isNameChar c = true :=
  List.all_eq_true.mp (Bool.and_eq_true_iff.mp hs).2 c hc

/-- An identifier has a character. -/
lemma toList_ne_nil : s.toList ≠ [] := by
  intro h
  simp [isIdentifier, h] at hs

/-- The upper case of an identifier, character by character. -/
lemma toList_uppercase : (Text.uppercase s).toList = s.toList.map Char.toUpper := by
  rw [Text.uppercase, String.toList_ofList, List.map_eq_flatMap]
  exact List.flatMap_congr fun c hc => if_pos (toNat_lt_of_isNameChar (isNameChar_of_mem hs hc))

/-- The characters of an identifier in upper case are characters of names. -/
lemma isNameChar_of_mem_uppercase {c : Char} (hc : c ∈ (Text.uppercase s).toList) :
    isNameChar c = true := by
  rw [toList_uppercase hs] at hc
  obtain ⟨d, hd, rfl⟩ := List.mem_map.mp hc
  exact (isNameChar_toUpper (isNameChar_of_mem hs hd)).1

end Vhdl

/-- The text of a known mode has no line breaks. -/
lemma Mode.unbroken_tag {m : Mode} (h : m.isKnown = true) : Unbroken m.tag := by
  obtain ⟨access, haccess⟩ := Option.isSome_iff_exists.mp h
  rw [(Mode.access?_eq_some_iff m access).mp haccess]
  cases access <;> exact Vhdl.notMem_toList rfl (by decide)

/-- The name of the constant for the index of a register. -/
def Register.constantName (r : Register) : String := "C_" ++ Text.uppercase r.label

namespace Register

open Vhdl

variable {r : Register} (hr : isIdentifier r.label = true)

/-- The name of the constant for the index of a register, character by character. -/
lemma toList_constantName :
    r.constantName.toList = 'C' :: '_' :: (Text.uppercase r.label).toList := by
  rw [constantName, String.toList_append]
  rfl

/-- The name of a constant is no word that says what is declared. -/
lemma constantName_notMem_declarationWords : r.constantName ∉ declarationWords := by
  have hall : ∀ word ∈ declarationWords, word.toList.head? ≠ some 'C' := by decide +kernel
  exact fun hmem => hall _ hmem (by rw [toList_constantName, List.head?_cons])

include hr

/-- The characters of the name of a constant are characters of names. -/
lemma isNameChar_of_mem_constantName {c : Char} (hc : c ∈ r.constantName.toList) :
    isNameChar c = true := by
  rw [toList_constantName, List.mem_cons, List.mem_cons] at hc
  rcases hc with rfl | rfl | hc
  · decide
  · decide
  · exact isNameChar_of_mem_uppercase hr hc

end Register

/-- The name that the line of a register in a declarative section declares. -/
def Vhdl.Section.registerName? (r : Register) : Section → Option String
  | .ports => some r.label
  | .indices => some r.constantName
  | _ => none

namespace Plan

open Vhdl

variable (p : Plan)

/-! ## The lines of the registers -/

/-- A line that starts with literal text, by its characters. -/
lemma toList_join_of_eq {start : String} {cs : List Char} (hstart : start = String.ofList cs)
    (rest : List String) :
    (String.join (start :: rest)).toList = cs ++ (String.join rest).toList := by
  rw [String.join_cons, String.toList_append, hstart, String.toList_ofList]

/-- A line with a text in the column of labels behind literal text. -/
lemma toList_join_column {start : String} {cs : List Char} (hstart : start = String.ofList cs)
    (s : String) (rest : List String) :
    (String.join (start :: p.column s :: rest)).toList = cs ++
      (s.toList ++ (List.replicate (p.labelColumn - s.length) ' ' ++
        (String.join rest).toList)) := by
  rw [toList_join_of_eq hstart, String.join_cons, String.toList_append, column, Text.toList_padEnd,
    List.append_assoc]

/-- The line of a port starts with its name and a colon. -/
lemma exists_line_ports_eq (r : Register) : ∃ gap rest, (p.line r .ports).toList =
    List.replicate 4 ' ' ++ (r.label.toList ++ (List.replicate gap ' ' ++ ' ' :: ':' :: rest)) := by
  have htail : ∃ rest, (if r.mode.access? = some .status then
      " : in  std_logic_vector(C_S_AXI_DATA_WIDTH - 1 downto 0);"
      else " : out std_logic_vector(C_S_AXI_DATA_WIDTH - 1 downto 0);") =
        String.ofList (' ' :: ':' :: rest) := by
    split
    · exact ⟨_, rfl⟩
    · exact ⟨_, rfl⟩
  obtain ⟨rest, hrest⟩ := htail
  exact ⟨_, _, by rw [line, toList_join_column p rfl, hrest, toList_join_of_eq rfl]; rfl⟩

/-- The line of an index says that it declares a constant, its name, filled up to the column of
labels, and a colon. -/
lemma exists_line_indices_eq (r : Register) : ∃ rest, (p.line r .indices).toList =
    List.replicate 2 ' ' ++ (['c', 'o', 'n', 's', 't', 'a', 'n', 't'] ++ (List.replicate 0 ' ' ++
      ' ' :: (r.constantName.toList ++
        (List.replicate (p.labelColumn - (Text.uppercase r.label).length) ' ' ++
          ' ' :: ':' :: rest)))) :=
  ⟨_, by
    rw [line, toList_join_column p rfl, Register.toList_constantName, toList_join_of_eq rfl]
    simp only [List.replicate, List.cons_append, List.nil_append]
    rfl⟩

/-- A line that refers to an index starts with the name of the constant, filled up to the column of
labels, and an arrow. -/
lemma exists_line_arrow_eq (r : Register) {s : Section}
    (hs : s = .resetValues ∨ s = .writable) :
    ∃ rest, (p.line r s).toList = List.replicate 4 ' ' ++ (r.constantName.toList ++
      (List.replicate (p.labelColumn - (Text.uppercase r.label).length) ' ' ++
        ' ' :: '=' :: '>' :: rest)) := by
  rcases hs with rfl | rfl
  all_goals
    exact ⟨_, by
      rw [line, toList_join_column p rfl, Register.toList_constantName, toList_join_of_eq rfl]
      simp only [List.replicate, List.cons_append, List.nil_append]
      rfl⟩

/-- **What the line of a register declares in a declarative section.** The line does not start the
body. -/
lemma declaredName?_line {r : Register} (hr : isIdentifier r.label = true) {s : Section}
    (hs : s.isDeclarative = true) :
    declaredName? (p.line r s).toList = s.registerName? r ∧
      (p.line r s).toList.head? ≠ some 'b' := by
  have hlabel (c : Char) (hc : c ∈ r.label.toList) := isNameChar_of_mem hr hc
  have hname (c : Char) (hc : c ∈ r.constantName.toList) := r.isNameChar_of_mem_constantName hr hc
  have hname_ne : r.constantName.toList ≠ [] := by
    rw [Register.toList_constantName]
    exact List.cons_ne_nil _ _
  have harrow (hs' : s = .resetValues ∨ s = .writable) :
      declaredName? (p.line r s).toList = none ∧ (p.line r s).toList.head? ≠ some 'b' := by
    obtain ⟨rest, hline⟩ := p.exists_line_arrow_eq r hs'
    rw [hline, declaredName?_word hname hname_ne 3 _ (by simp), String.ofList_toList,
      if_neg (by simp), if_neg r.constantName_notMem_declarationWords]
    exact ⟨rfl, by simp⟩
  cases s with
  | header =>
    have hline : (p.line r .header).toList.head? = some '-' := by
      rw [line, toList_join_of_eq rfl]
      rfl
    rw [declaredName?_of_head? (by simp [hline]), hline]
    exact ⟨rfl, by decide⟩
  | ports =>
    obtain ⟨gap, rest, hline⟩ := p.exists_line_ports_eq r
    rw [hline, declaredName?_word hlabel (toList_ne_nil hr) 3 gap (by simp), String.ofList_toList]
    exact ⟨rfl, by simp⟩
  | indices =>
    obtain ⟨rest, hline⟩ := p.exists_line_indices_eq r
    have hfirst (cs : List Char) : (r.constantName.toList ++ cs).head? = some 'C' := by
      rw [Register.toList_constantName]
      rfl
    have hcolon : (':' :: rest).head? ≠ some ' ' := by simp
    have hnext := readWord_spaces hname hname_ne 0
      (p.labelColumn - (Text.uppercase r.label).length) hcolon
    rw [List.replicate_zero, List.nil_append] at hnext
    have hconstant : ∀ c ∈ ['c', 'o', 'n', 's', 't', 'a', 'n', 't'], isNameChar c = true :=
      List.all_eq_true.mp (by decide)
    have hdeclares : String.ofList ['c', 'o', 'n', 's', 't', 'a', 'n', 't'] ∈ declarationWords :=
      List.mem_cons_self
    rw [hline, declaredName?_word hconstant (List.cons_ne_nil _ _) 1 0 (by simp [hfirst]), hfirst,
      if_neg (by decide), if_pos hdeclares, hnext, String.ofList_toList]
    exact ⟨rfl, by simp⟩
  | resetValues => exact harrow (.inl rfl)
  | writable => exact harrow (.inr rfl)
  | clears | overrides | outputs => exact absurd hs (by decide)

/-! ## The declared names -/

/-- The names that the lines of the registers in a section declare. -/
def sectionNames (s : Section) : List String :=
  (p.registers.filter fun r => s.admits r.mode.access?).filterMap s.registerName?

variable {p} (hlabels : ∀ r ∈ p.registers, isIdentifier r.label = true)

/-- The ports are named like the registers, and there is a constant for each of them. -/
lemma sectionNames_declarations (hmodes : ∀ r ∈ p.registers, r.mode.isKnown = true) :
    (declarations.filterMap TemplateLine.section?).flatMap p.sectionNames =
      p.registers.map Register.label ++ p.registers.map Register.constantName := by
  have hports : (p.registers.filter fun r => Section.ports.admits r.mode.access?) = p.registers :=
    List.filter_eq_self.mpr hmodes
  have hindices : (p.registers.filter fun r => Section.indices.admits r.mode.access?) =
      p.registers := List.filter_eq_self.mpr fun _ _ => rfl
  have hmap (f : Register → String) : p.registers.filterMap (fun r => some (f r)) =
      p.registers.map f := congrFun List.filterMap_eq_map' _
  rw [declarations_spec.2.1]
  simp [sectionNames, hports, hindices, Section.registerName?, hmap]

include hlabels

/-- What a line of the template declares, and that it does not start the body. -/
lemma declaredNames_lineTexts {t : TemplateLine} (ht : t.isDeclarative = true) :
    (p.lineTexts t).filterMap declaredName? =
        t.frameName?.toList ++ t.section?.toList.flatMap p.sectionNames ∧
      ∀ line ∈ p.lineTexts t, line ≠ bodyStart := by
  cases t with
  | frame line =>
    obtain ⟨hname, hne⟩ := p.declaredName?_marksText ht
    refine ⟨?_, by simpa [lineTexts] using hne⟩
    rw [lineTexts, TemplateLine.frameName?, ← hname, TemplateLine.section?]
    cases hline : declaredName? (p.marksText line) <;> simp [hline]
  | registers s =>
    have hline (r : Register) (hr : r ∈ p.registers) := p.declaredName?_line (hlabels r hr) ht
    refine ⟨?_, ?_⟩
    · rw [lineTexts, sectionLines, List.map_map, List.filterMap_map]
      simp only [TemplateLine.frameName?, TemplateLine.section?, sectionNames, Option.toList_none,
        Option.toList_some, List.nil_append, List.flatMap_cons, List.flatMap_nil, List.append_nil]
      refine List.filterMap_congr fun r hr => ?_
      exact (hline r (List.mem_of_mem_filter hr)).1
    · intro line hmem heq
      simp only [lineTexts, sectionLines, List.mem_map] at hmem
      obtain ⟨_, ⟨r, hr, rfl⟩, rfl⟩ := hmem
      exact (hline r (List.mem_of_mem_filter hr)).2 (by rw [heq]; rfl)

/-- The lines in front of the body are those of the declarations. -/
lemma takeWhile_lines :
    p.lines.takeWhile (· ≠ bodyStart) = declarations.flatMap p.lineTexts := by
  obtain ⟨rest, hrest⟩ := exists_templateLines_eq
  have hstart : p.lineTexts (.frame (bodyStart.map .char)) = [bodyStart] := by
    rw [lineTexts, marksText, List.flatMap_map]
    exact congrArg (fun cs => [cs]) (List.flatMap_singleton' bodyStart)
  have hall : ∀ line ∈ declarations.flatMap p.lineTexts, line ≠ bodyStart := by
    intro line hmem
    obtain ⟨t, ht, hline⟩ := List.mem_flatMap.mp hmem
    have hdecl : t.isDeclarative = true := List.all_eq_true.mp List.all_takeWhile t ht
    exact (declaredNames_lineTexts hlabels hdecl).2 line hline
  rw [lines, hrest, List.flatMap_append, List.flatMap_cons, hstart,
    List.takeWhile_append_of_pos (by simpa using hall), List.singleton_append,
    List.takeWhile_cons_of_neg (by simp), List.append_nil]

/-- **The names that a register file declares**: those of the frame, and for every register a port
and a constant. -/
theorem declaredNames_perm (hmodes : ∀ r ∈ p.registers, r.mode.isKnown = true) :
    (declaredNames p.lines).Perm (frameNames ++
      (p.registers.map Register.label ++ p.registers.map Register.constantName)) := by
  have hnames : declaredNames p.lines = declarations.flatMap fun t =>
      t.frameName?.toList ++ t.section?.toList.flatMap p.sectionNames := by
    rw [declaredNames, takeWhile_lines hlabels, List.filterMap_flatMap]
    refine List.flatMap_congr fun t ht => ?_
    have hdecl : t.isDeclarative = true := List.all_eq_true.mp List.all_takeWhile t ht
    exact (declaredNames_lineTexts hlabels hdecl).1
  have hframe : (declarations.flatMap fun t => t.frameName?.toList) = frameNames := by
    rw [← declarations_spec.1, List.filterMap_eq_flatMap_toList]
  have hsections : (declarations.flatMap fun t => t.section?.toList.flatMap p.sectionNames) =
      p.registers.map Register.label ++ p.registers.map Register.constantName := by
    rw [← sectionNames_declarations hmodes, List.filterMap_eq_flatMap_toList, List.flatMap_assoc]
  rw [hnames, ← hframe, ← hsections]
  exact (List.flatMap_append_perm _ _ _).symm

end Plan

end RegisterFile

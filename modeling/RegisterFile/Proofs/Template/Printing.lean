import RegisterFile.Proofs.Outcome
import RegisterFile.Proofs.Template.Assembly
import RegisterFile.Proofs.Text.Padding
import RegisterFile.Template.Rendering

set_option autoImplicit false

/-!
# What the parts of a template print

The text of a body, given the text of its first part and of what stands behind that. A loop over a
list prints its body once for each item; a choice prints one of its two bodies.

## Main results

* `Template.render_withText`, `Template.render_output` - text and values.
* `Template.render_forEach` - a loop over a list.
* `Template.render_choose` - a choice.
* `Template.ljust_eq_ok`, `Template.vhdlHex_eq_ok` - what filters yield.
* `Template.apply_ljust`, `Template.apply_upper`, `Template.apply_vhdlHex` - filters in a template.
-/

namespace RegisterFile.Template

variable {template : String} {scope : Scope}

/-! ## Values -/

/-- A text is printed as it is. -/
lemma print_text (s : String) : (Value.text s).print = s := by
  simp [Value.print, Value.write]

/-- A number is printed as its digits. -/
lemma print_integer (n : Nat) : (Value.integer n).print = toString n := by
  rw [Value.print, Value.write]
  rfl

/-- A reference is evaluated to what its path stands for. -/
lemma evaluate_reference {path : String} {v : Value} (h : scope.find? path = .ok (some v)) :
    (Operand.reference path).evaluate template scope = .ok v := by
  rw [Operand.evaluate, h]

/-- An operand without filters. -/
lemma evaluate_operand {o : Operand} {v : Value} (h : o.evaluate template scope = .ok v) :
    Expression.evaluate template scope ⟨o, []⟩ = .ok v := by
  rw [Expression.evaluate, h]
  rfl

/-- An operand that goes through a filter first. -/
lemma evaluate_filter {o : Operand} {v w : Value} {call : FilterCall}
    (h : o.evaluate template scope = .ok v)
    (hcall : FilterCall.apply template scope v call = .ok w) (calls : List FilterCall) :
    Expression.evaluate template scope ⟨o, call :: calls⟩ =
      calls.foldlM (FilterCall.apply template scope) w := by
  simp [Expression.evaluate, h, hcall]

/-! ## Filters -/

/-- A filter without arguments. -/
theorem apply_upper (s : String) :
    FilterCall.apply template scope (.text s) ⟨"upper", []⟩ = .ok (.text (Text.uppercase s)) := rfl

/-- The only argument of a filter. -/
lemma evaluateArguments_singleton {o : Operand} {v : Value}
    (ho : o.evaluate template scope = .ok v) (name : String) :
    evaluateArguments template scope [(name, o)] = .ok [(name, v)] := by
  simp [evaluateArguments, ho]

/-- The filter fills up a text to the width that it is given. -/
theorem ljust_eq_ok {arguments : Arguments} {n : Nat}
    (harguments : arguments.lookup "width" = some (.integer n)) (hn : n ≤ Text.widestField)
    (s : String) : ljust (.text s) arguments = .ok (.text (Text.padEnd n s)) := by
  have hvalue : textValue "ljust" (.text s) = .ok s := rfl
  have hwidth : wordArgument "ljust" "width" arguments = .ok n := by
    rw [wordArgument, harguments]
  simp [ljust, hvalue, hwidth, Text.fieldWidth_eq_ok hn]

/-- The filter writes the literal for the bits that it is given. -/
theorem vhdlHex_eq_ok {arguments : Arguments} {bits n : Nat} {literal : String}
    (harguments : arguments.lookup "bits" = some (.integer bits))
    (hliteral : bitString bits n = .ok literal) :
    vhdlHex (.integer n) arguments = .ok (.text literal) := by
  have hbits : wordArgument "vhdl_hex" "bits" arguments = .ok bits := by
    rw [wordArgument, harguments]
  have hvalue : wordValue "vhdl_hex" (.integer n) = .ok n := rfl
  simp [vhdlHex, hvalue, hbits, hliteral]

/-- Padding to a width that no field exceeds. -/
theorem apply_ljust {o : Operand} {n : Nat} (ho : o.evaluate template scope = .ok (.integer n))
    (hn : n ≤ Text.widestField) (s : String) :
    FilterCall.apply template scope (.text s) ⟨"ljust", [("width", o)]⟩ =
      .ok (.text (Text.padEnd n s)) := by
  have hfilter : filter? "ljust" = some ljust := rfl
  have hljust : ljust (.text s) [("width", .integer n)] = .ok (.text (Text.padEnd n s)) :=
    ljust_eq_ok rfl hn s
  simp [FilterCall.apply, hfilter, evaluateArguments_singleton ho, hljust]

/-- A bit string literal. -/
theorem apply_vhdlHex {o : Operand} {bits n : Nat}
    (ho : o.evaluate template scope = .ok (.integer bits)) {literal : String}
    (hliteral : bitString bits n = .ok literal) :
    FilterCall.apply template scope (.integer n) ⟨"vhdl_hex", [("bits", o)]⟩ =
      .ok (.text literal) := by
  have hfilter : filter? "vhdl_hex" = some vhdlHex := rfl
  have hhex : vhdlHex (.integer n) [("bits", .integer bits)] = .ok (.text literal) :=
    vhdlHex_eq_ok rfl hliteral
  simp [FilterCall.apply, hfilter, evaluateArguments_singleton ho, hhex]

/-! ## Bodies -/

/-- Pending text is printed first. -/
theorem render_withText {b : Body} {s : String} (h : b.render template scope = .ok s)
    (reversed : List Char) :
    (withText reversed b).render template scope = .ok (String.ofList reversed.reverse ++ s) := by
  by_cases hempty : reversed = []
  · simp [withText, hempty, h]
  · simp [withText, hempty, Body.render, h]

/-- A value is printed in front of what stands behind it. -/
theorem render_output {e : Expression} {v : Value} (he : e.evaluate template scope = .ok v)
    {next : Body} {s : String} (h : next.render template scope = .ok s) :
    (Body.output e next).render template scope = .ok (v.print ++ s) := by
  simp [Body.render, he, h]

/-- A choice prints its first body if its condition holds, otherwise its second one. -/
theorem render_choose {condition : Condition} {holds : Bool}
    (hcondition : Condition.holds template scope condition = .ok holds) {yes no next : Body}
    {part s : String}
    (hpart : (if holds then yes else no).render template scope = .ok part)
    (h : next.render template scope = .ok s) :
    (Body.choose condition yes no next).render template scope = .ok (part ++ s) := by
  cases holds <;>
    simp_all [Body.render, bind, Except.bind, pure, Except.pure]

section Loops

variable {α : Type} {xs : List α} {item : α → Value} {f : α → String} {body : Body}

/-- The rounds of a loop over a list, in each of which its body prints the text for the item.

**Proof sketch.** Induction on the items. The number of a round and whether it is the last one do
not matter to the text. -/
lemma mapM_loops {header : LoopHeader} (hkey : header.key = none)
    (hbody : ∀ x ∈ xs, ∀ index isLast,
      body.render template (scope.enter ⟨none, header.name, some (item x), index, isLast⟩) =
        .ok (f x))
    (index : Nat) :
    (header.loops index (xs.map fun x => (none, some (item x)))).mapM
      (fun l => body.render template (scope.enter l)) = .ok (xs.map f) := by
  induction xs generalizing index with
  | nil => rfl
  | cons x xs ih =>
    have hx := hbody x List.mem_cons_self
    have hxs := ih (fun y hy => hbody y (List.mem_cons_of_mem x hy)) (index + 1)
    simp [LoopHeader.loops, hkey, hx, hxs]

/-- A loop over a list has a round for each item. -/
lemma rounds_list {name path : String}
    (hpath : Operand.evaluate template scope (.reference path) = .ok (.list (xs.map item))) :
    LoopHeader.rounds template scope ⟨none, name, ⟨.reference path, []⟩⟩ =
      .ok (xs.map fun x => (none, some (item x))) := by
  simp [LoopHeader.rounds, Expression.evaluate, hpath, LoopHeader.roundsOf]

/-- **A loop over a list prints its body for each item**, in the order of the list. -/
theorem render_forEach {name path : String}
    (hpath : Operand.evaluate template scope (.reference path) = .ok (.list (xs.map item)))
    (hbody : ∀ x ∈ xs, ∀ index isLast,
      body.render template (scope.enter ⟨none, name, some (item x), index, isLast⟩) = .ok (f x))
    {next : Body} {s : String} (h : next.render template scope = .ok s) :
    (Body.forEach ⟨none, name, ⟨.reference path, []⟩⟩ body next).render template scope =
      .ok (String.join (xs.map f) ++ s) := by
  have hkey : (⟨none, name, ⟨.reference path, []⟩⟩ : LoopHeader).key = none := rfl
  have hparts := mapM_loops hkey hbody 0
  simp [Body.render, rounds_list hpath, hparts, h]

end Loops

end RegisterFile.Template

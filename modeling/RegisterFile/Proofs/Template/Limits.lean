import RegisterFile.Proofs.Template.Printing

set_option autoImplicit false

/-!
# Where templates break off

Padding fails if it is asked for a field wider than any field may be. A computation that fails for
no other reason has a result exactly if all the fields that it fills up are narrow enough, and this
condition is put together from those of its parts.

## Main definitions

* `EndsWithin` - a computation has a result exactly if its fields are not too wide.
* `Template.tooWide` - the stop of a template at a field that is too wide.

## Main results

* `EndsWithin.bind` - two computations one after another.
* `Template.apply_ljust_tooWide`, `Template.apply_vhdlHex_tooWide` - filters that break off.
* `Template.endsWithin_output`, `Template.endsWithin_choose`, `Template.endsWithin_forEach` - the
  parts of a template.
-/

namespace RegisterFile

/-! ## Computations -/

section EndsWithin

variable {ε α β : Type} {tooWide : Text.FieldTooWide → ε} {P Q : Prop} {x : Except ε α}

/-- A computation has a result if `fits` holds. Otherwise it ends with the failure `tooWide` at a
field that is wider than any field may be. -/
def EndsWithin (tooWide : Text.FieldTooWide → ε) (fits : Prop) (x : Except ε α) : Prop :=
  (fits ∧ ∃ a, x = .ok a) ∨
    (¬fits ∧ ∃ field, Text.widestField < field.width ∧ x = .error (tooWide field))

/-- A result needs no field. -/
lemma EndsWithin.ok (a : α) : EndsWithin tooWide True (.ok a : Except ε α) :=
  .inl ⟨trivial, a, rfl⟩

/-- Conditions that say the same can be exchanged. -/
lemma EndsWithin.congr (h : EndsWithin tooWide P x) (hPQ : P ↔ Q) : EndsWithin tooWide Q x := by
  rwa [← propext hPQ]

/-- There is a result exactly if the condition holds. -/
lemma EndsWithin.exists_ok_iff (h : EndsWithin tooWide P x) : (∃ a, x = .ok a) ↔ P := by
  rcases h with ⟨hP, hx⟩ | ⟨hP, field, -, rfl⟩
  · exact iff_of_true hx hP
  · exact iff_of_false (by simp) hP

/-- Two computations of which the second goes on from the result of the first one. -/
theorem EndsWithin.bind {f : α → Except ε β} (hx : EndsWithin tooWide P x)
    (hf : ∀ a, EndsWithin tooWide Q (f a)) : EndsWithin tooWide (P ∧ Q) (x >>= f) := by
  rcases hx with ⟨hP, a, rfl⟩ | ⟨hP, field, hwide, rfl⟩
  · exact (hf a).congr (by simp [hP])
  · exact .inr ⟨fun h => hP h.1, field, hwide, rfl⟩

/-- A computation whose result is changed. -/
lemma EndsWithin.map (hx : EndsWithin tooWide P x) (f : α → β) :
    EndsWithin tooWide P (x >>= fun a => pure (f a)) :=
  (hx.bind (Q := True) fun a => .ok (f a)).congr (by simp)

/-- A failure that is told in another way. -/
lemma EndsWithin.mapError {δ : Type} (h : EndsWithin tooWide P x) (f : ε → δ) :
    EndsWithin (f ∘ tooWide) P (x.mapError f) := by
  rcases h with ⟨hP, a, rfl⟩ | ⟨hP, field, hwide, rfl⟩
  · exact .inl ⟨hP, a, rfl⟩
  · exact .inr ⟨hP, field, hwide, rfl⟩

/-- The width of a field is granted if it is not too wide. -/
lemma endsWithin_fieldWidth (n : Nat) :
    EndsWithin id (n ≤ Text.widestField) (Text.fieldWidth n) := by
  rcases Nat.lt_or_ge Text.widestField n with hn | hn
  · have hwide := Nat.not_le.mpr hn
    exact .inr ⟨hwide, ⟨n⟩, hn, Text.fieldWidth_eq_error hwide⟩
  · exact .inl ⟨hn, n, Text.fieldWidth_eq_ok hn⟩

end EndsWithin

namespace Template

variable {template : String} {scope : Scope}

/-- The stop at a field that is too wide. -/
def tooWide (field : Text.FieldTooWide) : Stop := .brokenOff (.fieldTooWide field)

/-! ## Filters -/

/-- An operand that goes through a filter that stops. -/
lemma evaluate_filter_stop {o : Operand} {v : Value} {call : FilterCall} {stop : Stop}
    (h : o.evaluate template scope = .ok v)
    (hcall : FilterCall.apply template scope v call = .error stop) (calls : List FilterCall) :
    Expression.evaluate template scope ⟨o, call :: calls⟩ = .error stop := by
  simp [Expression.evaluate, h, hcall]

/-- Padding to a width that is too wide. -/
theorem apply_ljust_tooWide {o : Operand} {n : Nat}
    (ho : o.evaluate template scope = .ok (.integer n)) (hn : ¬n ≤ Text.widestField) (s : String) :
    FilterCall.apply template scope (.text s) ⟨"ljust", [("width", o)]⟩ = .error (tooWide ⟨n⟩) := by
  have hwidth := Text.fieldWidth_eq_error hn
  have hfilter : filter? "ljust" = some ljust := rfl
  have hljust : ljust (.text s) [("width", .integer n)] = .error (.tooWide ⟨n⟩) := by
    simp [ljust, textValue, wordArgument, hwidth]
  simp [FilterCall.apply, hfilter, evaluateArguments_singleton ho, hljust, FilterStop.inFilter,
    tooWide]

/-- A bit string literal with too many digits. -/
theorem apply_vhdlHex_tooWide {o : Operand} {bits n : Nat}
    (ho : o.evaluate template scope = .ok (.integer bits)) {field : Text.FieldTooWide}
    (hliteral : bitString bits n = .error field) :
    FilterCall.apply template scope (.integer n) ⟨"vhdl_hex", [("bits", o)]⟩ =
      .error (tooWide field) := by
  have hfilter : filter? "vhdl_hex" = some vhdlHex := rfl
  have hhex : vhdlHex (.integer n) [("bits", .integer bits)] = .error (.tooWide field) := by
    simp [vhdlHex, wordValue, wordArgument, hliteral]
  simp [FilterCall.apply, hfilter, evaluateArguments_singleton ho, hhex, FilterStop.inFilter,
    tooWide]

/-! ## Bodies -/

section Bodies

variable {P Q : Prop} {next : Body}

/-- Pending text is never too wide. -/
lemma endsWithin_withText (h : EndsWithin tooWide Q (next.render template scope))
    (reversed : List Char) :
    EndsWithin tooWide Q ((withText reversed next).render template scope) := by
  by_cases hempty : reversed = []
  · simpa [withText, hempty] using h
  · simpa [withText, hempty, Body.render] using h.map _

/-- A value in front of what stands behind it. -/
theorem endsWithin_output {e : Expression}
    (he : EndsWithin tooWide P (e.evaluate template scope))
    (h : EndsWithin tooWide Q (next.render template scope)) :
    EndsWithin tooWide (P ∧ Q) ((Body.output e next).render template scope) := by
  rw [Body.render]
  exact he.bind fun v => h.map _

/-- A choice of which the condition is known. -/
theorem endsWithin_choose {condition : Condition} {holds : Bool}
    (hcondition : Condition.holds template scope condition = .ok holds) {yes no : Body}
    (hpart : EndsWithin tooWide P ((if holds then yes else no).render template scope))
    (h : EndsWithin tooWide Q (next.render template scope)) :
    EndsWithin tooWide (P ∧ Q) ((Body.choose condition yes no next).render template scope) := by
  rw [Body.render, hcondition]
  cases holds with
  | true => exact hpart.bind fun part => h.map _
  | false => exact hpart.bind fun part => h.map _

variable {α : Type} {xs : List α} {item : α → Value} {fits : α → Prop} {body : Body}

/-- The rounds of a loop over a list. -/
lemma endsWithin_loops {header : LoopHeader} (hkey : header.key = none)
    (hbody : ∀ x ∈ xs, ∀ index isLast, EndsWithin tooWide (fits x)
      (body.render template (scope.enter ⟨none, header.name, some (item x), index, isLast⟩)))
    (index : Nat) :
    EndsWithin tooWide (∀ x ∈ xs, fits x)
      ((header.loops index (xs.map fun x => (none, some (item x)))).mapM
        fun l => body.render template (scope.enter l)) := by
  induction xs generalizing index with
  | nil => exact (EndsWithin.ok []).congr (by simp)
  | cons x xs ih =>
    have hxs := ih (fun y hy => hbody y (List.mem_cons_of_mem x hy)) (index + 1)
    simp only [List.map_cons, LoopHeader.loops, hkey, Option.bind_none, List.mapM_cons,
      List.forall_mem_cons]
    exact (hbody x List.mem_cons_self index _).bind fun part => hxs.map _

/-- A loop over a list, in front of what stands behind it. -/
theorem endsWithin_forEach {name path : String}
    (hpath : Operand.evaluate template scope (.reference path) = .ok (.list (xs.map item)))
    (hbody : ∀ x ∈ xs, ∀ index isLast, EndsWithin tooWide (fits x)
      (body.render template (scope.enter ⟨none, name, some (item x), index, isLast⟩)))
    (h : EndsWithin tooWide Q (next.render template scope)) :
    EndsWithin tooWide ((∀ x ∈ xs, fits x) ∧ Q)
      ((Body.forEach ⟨none, name, ⟨.reference path, []⟩⟩ body next).render template scope) := by
  rw [Body.render, rounds_list hpath]
  exact (endsWithin_loops rfl hbody 0).bind fun parts => h.map _

end Bodies

end Template

end RegisterFile

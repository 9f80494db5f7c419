import RegisterFile.Proofs.Outcome
import RegisterFile.Proofs.Template.Limits

set_option autoImplicit false

/-!
# Templates under different names

The name of a template stands in the faults that it reports and nowhere else. So a body has the same
text under all names, and where it breaks off it breaks off in the same way. A body that has no
faults is rendered to the same outcome.

The statement is carried from the operands up to the bodies along the way in which they are
computed: computations that agree up to their faults are put together to such computations.

## Main definitions

* `Template.AgreeUpToFaults` - the results and breakdowns of two computations are the same.

## Main results

* `Template.Body.render_agree` - a body under two names.
* `Template.AgreeUpToFaults.eq_of_endsWithin` - computations without faults.
-/

namespace RegisterFile.Template

/-! ## Faults apart -/

/-- Why rendering breaks off, unless it ends with a fault. -/
def Stop.breakdown? : Stop → Option Breakdown
  | .fault _ => none
  | .brokenOff cause => some cause

/-- Two computations have the same result, or both fail, with the same breakdown if one of them
breaks off. -/
def AgreeUpToFaults {α : Type} (x y : Except Stop α) : Prop :=
  x.mapError Stop.breakdown? = y.mapError Stop.breakdown?

namespace AgreeUpToFaults

variable {α β : Type} {x y : Except Stop α}

/-- A computation agrees with itself. -/
lemma refl (x : Except Stop α) : AgreeUpToFaults x x := rfl

/-- Faults agree. -/
lemma faults (first second : Fault) :
    AgreeUpToFaults (.error (.fault first) : Except Stop α) (.error (.fault second)) := rfl

/-- Two computations one after another. -/
lemma bind (hxy : AgreeUpToFaults x y) {f g : α → Except Stop β}
    (hfg : ∀ a, AgreeUpToFaults (f a) (g a)) : AgreeUpToFaults (x >>= f) (y >>= g) := by
  have hsteps : (fun a => (f a).mapError Stop.breakdown?) =
      fun a => (g a).mapError Stop.breakdown? := funext hfg
  rw [AgreeUpToFaults, mapError_bind, mapError_bind, hxy, hsteps]

/-- Computations for the elements of a list. -/
lemma mapM {f g : α → Except Stop β} (hfg : ∀ a, AgreeUpToFaults (f a) (g a)) (as : List α) :
    AgreeUpToFaults (as.mapM f) (as.mapM g) := by
  induction as with
  | nil => exact refl _
  | cons a as ih =>
    rw [List.mapM_cons, List.mapM_cons]
    exact (hfg a).bind fun b => ih.bind fun bs => refl _

/-- Computations that go on along a list. -/
lemma foldlM {f g : β → α → Except Stop β} (hfg : ∀ b a, AgreeUpToFaults (f b a) (g b a))
    (as : List α) (b : β) : AgreeUpToFaults (as.foldlM f b) (as.foldlM g b) := by
  induction as generalizing b with
  | nil => exact refl _
  | cons a as ih =>
    rw [List.foldlM_cons, List.foldlM_cons]
    exact (hfg b a).bind ih

/-- A fault is a fault while a filter is called as well. -/
lemma inFilter (hxy : AgreeUpToFaults x y) (name : String) :
    AgreeUpToFaults (x.mapError (Stop.inFilter name)) (y.mapError (Stop.inFilter name)) := by
  have hsame : Stop.breakdown? ∘ Stop.inFilter name = Stop.breakdown? := by
    funext stop
    cases stop <;> rfl
  rw [AgreeUpToFaults, mapError_mapError, mapError_mapError, hsame]
  exact hxy

/-- Computations that agree and have no faults are the same. -/
theorem eq_of_endsWithin (hxy : AgreeUpToFaults x y) {P Q : Prop} (hx : EndsWithin tooWide P x)
    (hy : EndsWithin tooWide Q y) : x = y := by
  rcases hx with ⟨-, a, rfl⟩ | ⟨-, field, -, rfl⟩
  · rcases hy with ⟨-, b, rfl⟩ | ⟨-, field, -, rfl⟩
    · exact congrArg Except.ok (Except.ok.inj hxy)
    · cases hxy
  · rcases hy with ⟨-, b, rfl⟩ | ⟨-, other, -, rfl⟩
    · cases hxy
    · have hfield : some (Breakdown.fieldTooWide field) = some (.fieldTooWide other) :=
        Except.error.inj hxy
      cases hfield
      rfl

end AgreeUpToFaults

/-! ## Expressions -/

section

variable (first second : String) (scope : Scope)

/-- An operand under two names. -/
lemma Operand.evaluate_agree (o : Operand) :
    AgreeUpToFaults (o.evaluate first scope) (o.evaluate second scope) := by
  cases o with
  | literal l => exact .refl _
  | reference path =>
    rw [evaluate, evaluate]
    cases scope.find? path with
    | error _ => exact .refl _
    | ok found =>
      cases found with
      | none => exact .faults _ _
      | some v => exact .refl _

/-- The arguments of a filter under two names. -/
lemma evaluateArguments_agree (arguments : List (String × Operand)) :
    AgreeUpToFaults (evaluateArguments first scope arguments)
      (evaluateArguments second scope arguments) :=
  .mapM (fun argument => (argument.2.evaluate_agree first second scope).bind fun _ => .refl _)
    arguments

/-- The call of a filter under two names. -/
lemma FilterCall.apply_agree (v : Value) (call : FilterCall) :
    AgreeUpToFaults (call.apply first scope v) (call.apply second scope v) := by
  rw [apply, apply]
  cases filter? call.name with
  | none => exact .refl _
  | some filter =>
    have harguments := evaluateArguments_agree first second scope call.arguments
    exact (harguments.inFilter call.name).bind fun _ => .refl _

/-- An expression under two names. -/
lemma Expression.evaluate_agree (e : Expression) :
    AgreeUpToFaults (e.evaluate first scope) (e.evaluate second scope) :=
  (e.operand.evaluate_agree first second scope).bind fun v =>
    .foldlM (fun v call => call.apply_agree first second scope v) e.filters v

/-- A comparison under two names. -/
lemma Comparison.holds_agree (c : Comparison) :
    AgreeUpToFaults (c.holds first scope) (c.holds second scope) :=
  (c.left.evaluate_agree first second scope).bind fun _ =>
    (c.right.evaluate_agree first second scope).bind fun _ => .refl _

/-- A condition under two names. -/
lemma Condition.holds_agree (condition : Condition) :
    AgreeUpToFaults (condition.holds first scope) (condition.holds second scope) := by
  induction condition with
  | nil => exact .refl _
  | cons c cs ih =>
    rw [Condition.holds, Condition.holds]
    refine (c.holds_agree first second scope).bind fun holds => ?_
    cases holds with
    | false => exact ih
    | true => exact .refl _

/-- The rounds of a loop under two names. -/
lemma LoopHeader.rounds_agree (header : LoopHeader) :
    AgreeUpToFaults (header.rounds first scope) (header.rounds second scope) := by
  rw [rounds, rounds]
  cases header.source.operand with
  | literal l => exact .refl _
  | reference path =>
    exact (header.source.evaluate_agree first second scope).bind fun _ => .refl _

end

/-! ## Bodies -/

/-- **A body under two names** has the same text, or breaks off in the same way, or ends with a
fault under both.

**Proof sketch.** Induction on the body. Every part is computed from values that agree under both
names. -/
theorem Body.render_agree (first second : String) (scope : Scope) (body : Body) :
    AgreeUpToFaults (body.render first scope) (body.render second scope) := by
  induction body generalizing scope with
  | done => exact .refl _
  | text s next ih =>
    rw [render, render]
    exact (ih scope).bind fun _ => .refl _
  | output e next ih =>
    rw [render, render]
    exact (e.evaluate_agree first second scope).bind fun _ => (ih scope).bind fun _ => .refl _
  | forEach header body next ihBody ih =>
    rw [render, render]
    refine (header.rounds_agree first second scope).bind fun rounds => ?_
    refine (AgreeUpToFaults.mapM (fun l => ihBody (scope.enter l)) _).bind fun _ => ?_
    exact (ih scope).bind fun _ => .refl _
  | choose condition yes no next ihYes ihNo ih =>
    rw [render, render]
    refine (condition.holds_agree first second scope).bind fun holds => ?_
    cases holds with
    | false => exact (ihNo scope).bind fun _ => (ih scope).bind fun _ => .refl _
    | true => exact (ihYes scope).bind fun _ => (ih scope).bind fun _ => .refl _

end RegisterFile.Template

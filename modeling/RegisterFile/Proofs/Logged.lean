import Mathlib.Tactic.Lemma
import RegisterFile.Logged

set_option autoImplicit false

/-!
# Laws of logged computations

The outcome of a computation does not depend on what it tells, and what is told before a failure is
kept.

## Main results

* `Logged.outcome_bind` - the outcome of two computations one after another.
* `Logged.outcome_ofExcept` - the outcome of a computation that tells nothing.
-/

namespace RegisterFile.Logged

variable {α β ε : Type}

/-- The outcome of two computations one after another. -/
@[simp] theorem outcome_bind (x : Logged α) (f : α → Logged β) :
    (x >>= f).outcome = x.outcome >>= fun a => (f a).outcome := by
  change (x.andThen f).outcome = _
  unfold andThen
  cases x.outcome <;> rfl

/-- The outcome of a computation that takes over a result or the cause of a failure. -/
@[simp] theorem outcome_ofExcept (failure : ε → Failure) (x : Except ε α) :
    (ofExcept failure x).outcome = x.mapError failure := by
  cases x <;> rfl

/-- The outcome of a computation that only tells something. -/
@[simp] lemma outcome_tell (events : List Event) : (tell events).outcome = .ok () := rfl

/-- The outcome of a computation that does nothing. -/
@[simp] lemma outcome_pure (a : α) : (pure a : Logged α).outcome = .ok a := rfl

end RegisterFile.Logged

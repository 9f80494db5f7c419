import RegisterFile.Event
import RegisterFile.Failure

set_option autoImplicit false

/-!
# Logged computations

A computation that tells events while it runs and ends with a result or a failure. The events told
before a failure are kept.

## Main definitions

* `Logged` - the events and the outcome of a computation; a monad.
* `Logged.tell`, `Logged.fail`, `Logged.ofExcept` - the basic computations.
-/

namespace RegisterFile

/-- The events and the outcome of a computation. -/
structure Logged (α : Type) where
  events : List Event
  outcome : Except Failure α

namespace Logged

/-- Run `f` on the result of a computation, if it has one. -/
def andThen {α β : Type} (x : Logged α) (f : α → Logged β) : Logged β :=
  match x.outcome with
  | .ok a =>
    let y := f a
    ⟨x.events ++ y.events, y.outcome⟩
  | .error failure => ⟨x.events, .error failure⟩

/-- Computations are made one after another. -/
instance : Monad Logged where
  pure a := ⟨[], .ok a⟩
  bind := andThen

/-- Tell some events. -/
def tell (events : List Event) : Logged Unit := ⟨events, .ok ()⟩

/-- Fail. -/
def fail {α : Type} (failure : Failure) : Logged α := ⟨[], .error failure⟩

/-- Take over a result or the cause of a failure. -/
def ofExcept {ε α : Type} (failure : ε → Failure) : Except ε α → Logged α
  | .ok a => pure a
  | .error e => fail (failure e)

end Logged

end RegisterFile

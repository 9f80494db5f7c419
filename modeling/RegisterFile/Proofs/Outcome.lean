import Mathlib.Tactic.Lemma

set_option autoImplicit false

/-!
# Laws of computations that may fail

## Main results

* `bind_eq_ok_iff`, `bind_eq_error_iff` - the results and failures of two computations one after
  another.
* `toOption_eq_some_iff` - a computation whose failures are not told.
* `mapError_bind` - a failure can be told in another way at the end or at each step.
-/

namespace RegisterFile

variable {ε δ ζ α β : Type}

/-- A computation that does nothing has its result. -/
@[simp] lemma pure_eq_ok (a : α) : (pure a : Except ε α) = .ok a := rfl

/-- A computation that goes on from a result. -/
@[simp] lemma ok_bind (a : α) (f : α → Except ε β) : (Except.ok a >>= f) = f a := rfl

/-- A computation that does not go on behind a failure. -/
@[simp] lemma error_bind (e : ε) (f : α → Except ε β) :
    (Except.error e >>= f) = .error e := rfl

/-- Two computations one after another have the result of the second one if both have one. -/
theorem bind_eq_ok_iff {x : Except ε α} {f : α → Except ε β} {b : β} :
    (x >>= f) = .ok b ↔ ∃ a, x = .ok a ∧ f a = .ok b := by
  cases x <;> simp

/-- Two computations one after another fail as the first of them that fails. -/
theorem bind_eq_error_iff {x : Except ε α} {f : α → Except ε β} {e : ε} :
    (x >>= f) = .error e ↔ x = .error e ∨ ∃ a, x = .ok a ∧ f a = .error e := by
  cases x <;> simp

/-- A result is told as it is. -/
@[simp] lemma mapError_ok (a : α) (f : ε → δ) : (Except.ok a).mapError f = .ok a := rfl

/-- A failure is told in another way. -/
@[simp] lemma mapError_error (e : ε) (f : ε → δ) :
    (Except.error e : Except ε α).mapError f = .error (f e) := rfl

/-- A failure that is told in another way is no result. -/
@[simp] lemma mapError_eq_ok_iff {x : Except ε α} {f : ε → δ} {a : α} :
    x.mapError f = .ok a ↔ x = .ok a := by
  cases x <;> simp

/-- A failure that is told in another way comes from a failure. -/
@[simp] lemma mapError_eq_error_iff {x : Except ε α} {f : ε → δ} {e : δ} :
    x.mapError f = .error e ↔ ∃ cause, x = .error cause ∧ f cause = e := by
  cases x <;> simp

/-- A failure that is told in another way twice. -/
@[simp] lemma mapError_mapError (x : Except ε α) (f : ε → δ) (g : δ → ζ) :
    (x.mapError f).mapError g = x.mapError (g ∘ f) := by
  cases x <;> rfl

/-- The failures of two computations one after another are told in another way. -/
theorem mapError_bind (x : Except ε α) (f : α → Except ε β) (g : ε → δ) :
    (x >>= f).mapError g = x.mapError g >>= fun a => (f a).mapError g := by
  cases x <;> rfl

/-- What is left of a computation if its failures are not told. -/
@[simp] theorem toOption_eq_some_iff {x : Except ε α} {a : α} :
    x.toOption = some a ↔ x = .ok a := by
  cases x <;> simp [Except.toOption]

/-- The same computation for as many elements that are the same. -/
lemma mapM_replicate {f : α → Except ε β} {a : α} {b : β} (h : f a = .ok b) (count : Nat) :
    (List.replicate count a).mapM f = .ok (List.replicate count b) := by
  induction count with
  | zero => rfl
  | succ count ih =>
    simp [List.replicate_succ, h, ih]

/-- A computation that returns each element of a list as it is returns the list as it is. -/
lemma mapM_eq_ok_self {f : α → Except ε α} {l : List α} (h : ∀ a ∈ l, f a = .ok a) :
    l.mapM f = .ok l := by
  induction l with
  | nil => rfl
  | cons a l ih =>
    simp [h a List.mem_cons_self, ih fun b hb => h b (List.mem_cons_of_mem a hb)]

end RegisterFile

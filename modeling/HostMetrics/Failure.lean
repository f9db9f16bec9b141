/-!
# Failing and aborting

A computation of this library can end in two ways other than a result. An
*error* is an answer: it has a cause, and whoever asked goes on with the
next question. An *abort* gives no answer. It arises where a counter does
not fit its 64 bits or a text would be cut inside a character, and it ends
everything that was under way, a whole tick of collections for instance.
-/

namespace HostMetrics

/-- What makes a computation stop without an answer. -/
inductive Abort where
  /-- A sum of counters needs more than 64 bits. -/
  | sumOverflow
  /-- A product of counters needs more than 64 bits. -/
  | productOverflow
  /-- A text would be cut inside a character. -/
  | splitCharacter
deriving DecidableEq, Repr

/-- How a computation with errors of type `ε` can fail. -/
inductive Failure (ε : Type) where
  /-- The answer is an error. -/
  | error (cause : ε)
  /-- There is no answer. -/
  | abort (cause : Abort)
deriving DecidableEq, Repr

variable {ε δ α β : Type}

@[simp] theorem ok_bind (a : α) (f : α → Except ε β) : (Except.ok a >>= f) = f a := rfl

@[simp] theorem error_bind (cause : ε) (f : α → Except ε β) :
    (Except.error cause >>= f) = .error cause := rfl

/-- A computation followed by another has a result iff both have one. -/
theorem bind_eq_ok {x : Except ε α} {f : α → Except ε β} {b : β} :
    (x >>= f) = .ok b ↔ ∃ a, x = .ok a ∧ f a = .ok b := by
  cases x with
  | error cause => simp
  | ok a => simp

/-- It fails as the first of the two that fails. -/
theorem bind_eq_error {x : Except ε α} {f : α → Except ε β} {cause : ε} :
    (x >>= f) = .error cause ↔ x = .error cause ∨ ∃ a, x = .ok a ∧ f a = .error cause := by
  cases x with
  | error own => simp
  | ok a => simp

theorem mapError_eq_ok {x : Except ε α} {f : ε → δ} {a : α} :
    x.mapError f = .ok a ↔ x = .ok a := by
  cases x with
  | error cause =>
    show Except.error (f cause) = .ok a ↔ _
    simp
  | ok b =>
    show Except.ok b = .ok a ↔ _
    simp

theorem mapError_eq_error {x : Except ε α} {f : ε → δ} {cause : δ} :
    x.mapError f = .error cause ↔ ∃ own, x = .error own ∧ f own = cause := by
  cases x with
  | error own =>
    show Except.error (f own) = .error cause ↔ _
    simp
  | ok b =>
    show Except.ok b = .error cause ↔ _
    simp

namespace Failure

/-- The same failure with its error seen as one of another kind. -/
def map (f : ε → δ) : Failure ε → Failure δ
  | error cause => error (f cause)
  | abort cause => abort cause

/-- An answer or an error, as a computation that does not abort. -/
def lift : Except ε α → Except (Failure ε) α :=
  Except.mapError error

/-- A result or an abort, as a computation that has no errors of its own. -/
def ofAbort : Except Abort α → Except (Failure ε) α :=
  Except.mapError abort

@[simp] theorem lift_ok (a : α) : (lift (.ok a) : Except (Failure ε) α) = .ok a := rfl

theorem lift_eq_ok {x : Except ε α} {a : α} : lift x = .ok a ↔ x = .ok a :=
  mapError_eq_ok

/-- An error that is seen as one of another kind is no abort either. -/
theorem lift_mapError_eq_error {x : Except ε α} {f : ε → δ} {failure : Failure δ} :
    lift (x.mapError f) = .error failure ↔ ∃ cause, x = .error cause ∧ failure = .error (f cause) := by
  cases x with
  | ok a =>
    show Except.ok a = .error failure ↔ _
    simp
  | error cause =>
    show Except.error (.error (f cause)) = .error failure ↔ _
    simp [eq_comm]

/-- A computation has an answer or an error, unless it aborts. -/
theorem exists_lift_or_abort (x : Except (Failure ε) α) :
    (∃ result, x = lift result) ∨ ∃ cause, x = .error (.abort cause) := by
  cases x with
  | ok a => exact .inl ⟨.ok a, rfl⟩
  | error failure =>
    cases failure with
    | error cause => exact .inl ⟨.error cause, rfl⟩
    | abort cause => exact .inr ⟨cause, rfl⟩

end Failure

end HostMetrics

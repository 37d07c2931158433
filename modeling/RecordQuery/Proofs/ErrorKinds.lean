/-
# Kinds of errors

Two computations can fail alike without reporting the same: the names of a node are listed in
their order, and a dotted name is reported as it was written.  What they have in common then is
the kind of the error (`LookupError.kind`).  Computations with the same outcome up to this can
be put together step by step (`SameOutcome.bind`).
-/

import RecordQuery.Error

namespace RecordQuery

/-- The kinds of errors, without their details. -/
inductive ErrorKind where
  | malformedRecord
  | invalidPath
  | unknownField
  | unsupportedLookup
  | typeMismatch
  | invalidArgument
  | invalidPattern
  | objectNotFound
  | invalidJson
  | unreadable
  deriving DecidableEq, Repr

/-- The kind of an error. -/
def LookupError.kind : LookupError → ErrorKind
  | .malformedRecord _ => .malformedRecord
  | .invalidPath _ _ => .invalidPath
  | .unknownField _ _ => .unknownField
  | .unsupportedLookup _ _ => .unsupportedLookup
  | .typeMismatch _ _ _ => .typeMismatch
  | .invalidArgument _ _ => .invalidArgument
  | .invalidPattern => .invalidPattern
  | .objectNotFound => .objectNotFound
  | .invalidJson => .invalidJson
  | .unreadable => .unreadable

/-- The same result, or errors of the same kind. -/
inductive SameOutcome {α : Type} : Except LookupError α → Except LookupError α → Prop where
  | ok (a : α) : SameOutcome (.ok a) (.ok a)
  | error {e e' : LookupError} : e.kind = e'.kind → SameOutcome (.error e) (.error e')

namespace SameOutcome

variable {α β : Type} {r r' : Except LookupError α}

/-- What is equal has the same outcome. -/
theorem of_eq (h : r = r') : SameOutcome r r' := by
  subst h
  cases r with
  | ok a => exact .ok a
  | error e => exact .error rfl

/-- Steps with the same outcome, followed by such steps, have the same outcome. -/
theorem bind {next next' : α → Except LookupError β} (h : SameOutcome r r')
    (hnext : ∀ a, SameOutcome (next a) (next' a)) : SameOutcome (r >>= next) (r' >>= next') := by
  cases h with
  | ok a => exact hnext a
  | error he => exact .error he

/-- Steps with the same outcome give the same result. -/
theorem eq_ok_iff (h : SameOutcome r r') {a : α} : r = .ok a ↔ r' = .ok a := by
  cases h with
  | ok _ => rfl
  | error _ => simp

/-- They succeed together. -/
theorem isOk_iff (h : SameOutcome r r') : r.isOk ↔ r'.isOk := by
  cases h <;> rfl

end SameOutcome

end RecordQuery

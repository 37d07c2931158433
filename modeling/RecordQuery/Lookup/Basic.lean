/-
# Lookups

A lookup is built in, or it is a predicate registered under a name.  Before it
is applied the shape of the value is checked against the shapes it accepts; a
registered predicate then always has an answer.
-/

import RecordQuery.Lookup.Eval

namespace RecordQuery

/-- A built-in lookup or a registered predicate. -/
inductive Lookup where
  | builtin (op : Op)
  | custom (name : String) (accepts : Accepts) (predicate : Value → Operand → Bool)

namespace Lookup

/-- The name that errors show. -/
def name : Lookup → String
  | .builtin op => op.name
  | .custom name _ _ => name

/-- The shapes that a lookup can be applied to. -/
def accepts : Lookup → Accepts
  | .builtin op => op.accepts
  | .custom _ accepts _ => accepts

/-- The error of a lookup on a shape that it cannot be applied to. -/
def unsupported (lookup : Lookup) (shape : Shape) : LookupError :=
  .unsupportedLookup lookup.name shape

section

variable [PatternEngine]

/-- The pattern that a lookup will search for, if it takes one. -/
def prepare (lookup : Lookup) (operand : Operand) : Except LookupError (Option Pattern) :=
  match lookup with
  | .builtin op => op.prepare operand
  | .custom _ _ _ => .ok none

/-- Applies a lookup with the pattern that was prepared for it. -/
def applyWith (lookup : Lookup) (pattern : Option Pattern) (value : Value)
    (operand : Operand) : Except LookupError Bool :=
  if lookup.accepts.allows value.shape then
    match lookup with
    | .builtin op => op.evalWith pattern value operand
    | .custom _ _ predicate => .ok (predicate value operand)
  else .error (lookup.unsupported value.shape)

/-- **Applies a lookup to a value and an operand.** -/
def apply (lookup : Lookup) (value : Value) (operand : Operand) : Except LookupError Bool :=
  lookup.applyWith none value operand

end

/-- A lookup for inspection. -/
def inspect : Lookup → String
  | .builtin op => "Builtin(" ++ op.label ++ ")"
  | .custom name accepts _ =>
    "Custom \x7b name: " ++ Text.inspect name ++ ", accepts: Accepts \x7b scalar: " ++
      Scalar.boolWord accepts.scalar ++ ", array: " ++ Scalar.boolWord accepts.array ++
      " \x7d, .. \x7d"

end Lookup
end RecordQuery

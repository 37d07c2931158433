/-
# Values and operands

A lookup compares the value of a field, a scalar or an array of scalars, with an
operand, a scalar or a list of scalars.
-/

import RecordQuery.Error
import RecordQuery.Scalar

namespace RecordQuery

/-- The value of a field that holds no nodes. -/
inductive Value where
  | scalar (s : Scalar)
  | array (items : List Scalar)
  deriving DecidableEq, Repr

/-- What a lookup compares a value with. -/
inductive Operand where
  | scalar (s : Scalar)
  | list (items : List Scalar)
  deriving DecidableEq, Repr

namespace Value

/-- The shape of a value. -/
def shape : Value → Shape
  | .scalar _ => .scalar
  | .array _ => .array

/-- Whether a value is the scalar null. -/
def isNull : Value → Bool
  | .scalar .null => true
  | _ => false

end Value

namespace Operand

/-- The type of an operand. -/
def type : Operand → TypeName
  | .scalar s => s.type
  | .list _ => .list

/-- The scalar, if the operand is one. -/
def scalar? : Operand → Option Scalar
  | .scalar s => some s
  | .list _ => none

/-- The string, if the operand is one. -/
def string? (operand : Operand) : Option String := operand.scalar?.bind Scalar.string?

/-- The items of an operand; a scalar counts as a list of one. -/
def items : Operand → List Scalar
  | .scalar s => [s]
  | .list items => items

/-- The items of a list operand, which must all be leaves. -/
def itemsOfJson : List Json → Except LookupError (List Scalar)
  | [] => .ok []
  | item :: items =>
    match Scalar.ofJson? item with
    | none => .error (.invalidArgument "operand" (.nestedItem item.type))
    | some s => (itemsOfJson items).map (s :: ·)

/-- The operand that a JSON value stands for. -/
def ofJson (value : Json) : Except LookupError Operand :=
  match value, Scalar.ofJson? value with
  | _, some s => .ok (.scalar s)
  | .array items, none => (itemsOfJson items).map .list
  | value, none => .error (.invalidArgument "operand" (.expectedScalarOrList value.type))

/-- An operand with its types. -/
def inspect : Operand → String
  | .scalar s => "Scalar(" ++ s.inspect ++ ")"
  | .list items => "List(" ++ Scalar.inspectList items ++ ")"

end Operand
end RecordQuery

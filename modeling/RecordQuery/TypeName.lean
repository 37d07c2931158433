/-
# The names of types in messages

Messages say what was found by its type: the type of a scalar, of an operand,
or of a raw JSON value.
-/

namespace RecordQuery

/-- The types that messages speak of. -/
inductive TypeName where
  | null
  | bool
  | number
  | string
  | list
  | array
  | object
  deriving DecidableEq, Repr

namespace TypeName

/-- The word for a type. -/
def word : TypeName → String
  | .null => "null"
  | .bool => "bool"
  | .number => "number"
  | .string => "string"
  | .list => "list"
  | .array => "array"
  | .object => "object"

end TypeName
end RecordQuery

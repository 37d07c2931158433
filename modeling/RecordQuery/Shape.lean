/-
# The shapes of fields

A field holds a scalar, an array of scalars, one nested node or a dataset of
nodes.  The first two are value fields, the others are related fields.
-/

namespace RecordQuery

/-- The four shapes of a field. -/
inductive Shape where
  | scalar
  | array
  | node
  | dataset
  deriving DecidableEq, Repr

namespace Shape

/-- All shapes. -/
def all : List Shape := [.scalar, .array, .node, .dataset]

/-- The word for a shape. -/
def word : Shape → String
  | .scalar => "scalar"
  | .array => "array"
  | .node => "node"
  | .dataset => "dataset"

/-- Whether a field of this shape holds nodes. -/
def isRelated : Shape → Bool
  | .scalar | .array => false
  | .node | .dataset => true

end Shape
end RecordQuery

/-
# Equality of nodes

Two nodes are equal if they have the same names and equal fields under each, in
whatever order the fields stand.  Fields are equal if they bear the same name and
hold the same.  The order inside arrays and datasets counts.  Scalars are equal
when their values are.
-/

import RecordQuery.Record.Basic

namespace RecordQuery

mutual

/-- Whether two nodes are equal. -/
def Node.same : Node → Node → Bool
  | .ofFields fields, other =>
    fields.length == other.fields.length && fieldsAmong fields other.fields
termination_by structural n _ => n

/-- Whether two contents are equal. -/
def Content.same : Content → Content → Bool
  | .scalar a, .scalar b => a.same b
  | .array as, .array bs => as.isEqv bs Scalar.same
  | .node a, .node b => a.same b
  | .dataset as, .dataset bs => sameNodes as bs
  | _, _ => false
termination_by structural content _ => content

/-- Whether each field has an equal one under the same name among others. -/
def fieldsAmong : List (String × Field) → List (String × Field) → Bool
  | [], _ => true
  | (key, ⟨name, content⟩) :: fields, others =>
    (match Entries.get? key others with
      | some other => name == other.name && content.same other.content
      | none => false) && fieldsAmong fields others
termination_by structural fields _ => fields

/-- Whether two lists of nodes are equal one by one. -/
def sameNodes : List Node → List Node → Bool
  | [], [] => true
  | a :: as, b :: bs => a.same b && sameNodes as bs
  | _, _ => false
termination_by structural as _ => as

end

/-- Whether two fields are equal. -/
def Field.same (field other : Field) : Bool :=
  field.name == other.name && field.content.same other.content

end RecordQuery

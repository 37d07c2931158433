/-
# The built-in lookups

| name | holds when the value |
| --- | --- |
| `exact`, `iexact` | equals the operand |
| `contains`, `icontains` | has the operand in it |
| `startswith`, `istartswith`, `endswith`, `iendswith` | begins or ends with the operand |
| `in` | is one of the operand's items |
| `gt`, `gte`, `lt`, `lte` | stands in this order to the operand |
| `range` | lies between two bounds |
| `isnull` | is null, or is not |
| `regex`, `iregex` | has a match of the pattern |
| `contained_by`, `overlap`, `len` | as an array, has only, or some, of the items, or so many |

A lookup with a second form that ignores case is one constructor with a case
rule, and the four orders are one constructor with a relation.
-/

import RecordQuery.Shape

namespace RecordQuery

/-- Whether upper and lower case differ. -/
inductive CaseRule where
  | sensitive
  | insensitive
  deriving DecidableEq, Repr

/-- An order between a value and an operand. -/
inductive Relation where
  | greater
  | atLeast
  | less
  | atMost
  deriving DecidableEq, Repr

/-- The shapes of fields that a lookup can be applied to. -/
structure Accepts where
  scalar : Bool
  array : Bool
  deriving DecidableEq, Repr

namespace Accepts

/-- Scalars only. -/
def scalars : Accepts := ⟨true, false⟩

/-- Arrays only. -/
def arrays : Accepts := ⟨false, true⟩

/-- Scalars and arrays. -/
def values : Accepts := ⟨true, true⟩

/-- Whether a shape is accepted; fields that hold nodes never are. -/
def allows (accepts : Accepts) : Shape → Bool
  | .scalar => accepts.scalar
  | .array => accepts.array
  | .node => false
  | .dataset => false

end Accepts

/-- A built-in lookup. -/
inductive Op where
  | exact (rule : CaseRule)
  | contains (rule : CaseRule)
  | startsWith (rule : CaseRule)
  | endsWith (rule : CaseRule)
  | oneOf
  | order (relation : Relation)
  | range
  | isNull
  | regex (rule : CaseRule)
  | containedBy
  | overlap
  | length
  deriving DecidableEq, Repr

namespace Relation

/-- Whether an order of value and operand fits the relation. -/
def fits : Relation → Ordering → Bool
  | .greater, o => o == .gt
  | .atLeast, o => o != .lt
  | .less, o => o == .lt
  | .atMost, o => o != .gt

end Relation

namespace Op

/-- All built-in lookups, in the order in which they are listed. -/
def all : List Op :=
  [.exact .sensitive, .exact .insensitive, .contains .sensitive, .contains .insensitive,
    .startsWith .sensitive, .startsWith .insensitive, .endsWith .sensitive,
    .endsWith .insensitive, .oneOf, .order .greater, .order .atLeast, .order .less,
    .order .atMost, .range, .isNull, .regex .sensitive, .regex .insensitive, .containedBy,
    .overlap, .length]

/-- The name of a lookup in keys. -/
def name : Op → String
  | .exact .sensitive => "exact"
  | .exact .insensitive => "iexact"
  | .contains .sensitive => "contains"
  | .contains .insensitive => "icontains"
  | .startsWith .sensitive => "startswith"
  | .startsWith .insensitive => "istartswith"
  | .endsWith .sensitive => "endswith"
  | .endsWith .insensitive => "iendswith"
  | .oneOf => "in"
  | .order .greater => "gt"
  | .order .atLeast => "gte"
  | .order .less => "lt"
  | .order .atMost => "lte"
  | .range => "range"
  | .isNull => "isnull"
  | .regex .sensitive => "regex"
  | .regex .insensitive => "iregex"
  | .containedBy => "contained_by"
  | .overlap => "overlap"
  | .length => "len"

/-- The name of a lookup for inspection. -/
def label : Op → String
  | .exact .sensitive => "Exact"
  | .exact .insensitive => "IExact"
  | .contains .sensitive => "Contains"
  | .contains .insensitive => "IContains"
  | .startsWith .sensitive => "StartsWith"
  | .startsWith .insensitive => "IStartsWith"
  | .endsWith .sensitive => "EndsWith"
  | .endsWith .insensitive => "IEndsWith"
  | .oneOf => "In"
  | .order .greater => "Gt"
  | .order .atLeast => "Gte"
  | .order .less => "Lt"
  | .order .atMost => "Lte"
  | .range => "Range"
  | .isNull => "IsNull"
  | .regex .sensitive => "Regex"
  | .regex .insensitive => "IRegex"
  | .containedBy => "ContainedBy"
  | .overlap => "Overlap"
  | .length => "Len"

/-- The built-in lookup with a name. -/
def ofName? (name : String) : Option Op := all.find? (·.name == name)

/-- The shapes that a lookup can be applied to. -/
def accepts : Op → Accepts
  | .exact _ | .contains _ | .oneOf | .isNull => .values
  | .containedBy | .overlap | .length => .arrays
  | .startsWith _ | .endsWith _ | .order _ | .range | .regex _ => .scalars

/-- Whether upper and lower case differ for a lookup. -/
def caseRule : Op → CaseRule
  | .exact rule | .contains rule | .startsWith rule | .endsWith rule | .regex rule => rule
  | .oneOf | .order _ | .range | .isNull | .containedBy | .overlap | .length => .sensitive

/-- The form of a lookup for which upper and lower case differ. -/
def caseSensitive : Op → Op
  | .exact _ => .exact .sensitive
  | .contains _ => .contains .sensitive
  | .startsWith _ => .startsWith .sensitive
  | .endsWith _ => .endsWith .sensitive
  | .regex _ => .regex .sensitive
  | op => op

/-- Whether a lookup that compares holds for an order of value and operand; the
others never do. -/
def fitsOrder : Op → Ordering → Bool
  | .exact .sensitive, o => o == .eq
  | .order relation, o => relation.fits o
  | _, _ => false

/-- **No two built-in lookups share a name.** -/
theorem ofName?_name (op : Op) : ofName? op.name = some op := by
  rcases op with ⟨_ | _⟩ | ⟨_ | _⟩ | ⟨_ | _⟩ | ⟨_ | _⟩ | _ | ⟨_ | _ | _ | _⟩ | _ | _ |
    ⟨_ | _⟩ | _ | _ | _ <;> rfl

end Op
end RecordQuery

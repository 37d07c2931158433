/-
# Evaluating the built-in lookups

A lookup on a value and an operand holds, does not hold, or cannot be decided.
What is checked first matters, since it decides which error is reported:

| lookup | checks, in order |
| --- | --- |
| `contains` on a scalar, `startswith`, `endswith` | shape, operand, value |
| `in` | operand |
| orders, `range` | shape, operand, types |
| `isnull` | operand |
| `regex` | operand, pattern, shape, value |
| `contained_by`, `overlap`, `len` | shape, operand |

Null never has a match and never stands in an order.
-/

import RecordQuery.Lookup.Op
import RecordQuery.Lookup.Operand
import RecordQuery.Pattern.Basic
import RecordQuery.Text.Search

namespace RecordQuery

namespace CaseRule

/-- A string as the case rule sees it. -/
def text : CaseRule → String → List Char
  | .sensitive, s => s.toList
  | .insensitive, s => Text.lowercase s.toList

/-- Whether two scalars are equal under a case rule. -/
def same : CaseRule → Scalar → Scalar → Bool
  | .sensitive, a, b => a.same b
  | .insensitive, a, b => a.foldCase.same b.foldCase

end CaseRule

namespace Op

/-- The scalar of a value; an array has a shape that the lookup cannot use. -/
def needScalar (op : Op) : Value → Except LookupError Scalar
  | .scalar s => .ok s
  | .array _ => .error (.unsupportedLookup op.name .array)

/-- The items of an array; a scalar has a shape that the lookup cannot use. -/
def needArray (op : Op) : Value → Except LookupError (List Scalar)
  | .array items => .ok items
  | .scalar _ => .error (.unsupportedLookup op.name .scalar)

/-- Whether a list holds a scalar equal to this one. -/
def hasSame (rule : CaseRule) (items : List Scalar) (s : Scalar) : Bool :=
  items.any fun item => rule.same item s

/-- Whether a value equals an operand: both are scalars, or both are lists and
equal item by item. -/
def evalExact (rule : CaseRule) : Value → Operand → Bool
  | .scalar a, .scalar b => rule.same a b
  | .array as, .list bs => as.isEqv bs rule.same
  | _, _ => false

/-- The strings that a string lookup looks for. -/
def needles (op : Op) : List Scalar → Except LookupError (List (List Char))
  | [] => .ok []
  | .string s :: items => (needles op items).map (op.caseRule.text s :: ·)
  | item :: _ => .error (.invalidArgument op.name (.expectedString item.type))

/-- The string that a string lookup looks into; null has none. -/
def haystack? (op : Op) : Scalar → Except LookupError (Option (List Char))
  | .null => .ok none
  | .string s => .ok (some (op.caseRule.text s))
  | s => .error (.typeMismatch op.name s.type .string)

/-- Whether a string has all items of the operand in it, or an array has an item
equal to each. -/
def evalContains (op : Op) (value : Value) (operand : Operand) : Except LookupError Bool :=
  match value with
  | .scalar s => do
    let wanted ← needles op operand.items
    let hay ← haystack? op s
    return hay.any fun hay => wanted.all fun needle => Text.occursIn needle hay
  | .array items => return operand.items.all (hasSame op.caseRule items)

/-- The one string that a lookup for the start or end of a string looks for. -/
def affix (op : Op) : Operand → Except LookupError (List Char)
  | .scalar (.string s) => .ok (op.caseRule.text s)
  | .scalar s => .error (.invalidArgument op.name (.expectedString s.type))
  | .list _ => .error (.invalidArgument op.name (.expectedString .list))

/-- Whether a string begins, or ends, with the operand. -/
def evalAffix (op : Op) (test : List Char → List Char → Bool) (value : Value)
    (operand : Operand) : Except LookupError Bool := do
  let s ← op.needScalar value
  let needle ← affix op operand
  let hay ← haystack? op s
  return hay.any fun hay => test hay needle

/-- Whether a scalar is one of the items of the operand; a string counts as the
list of its characters. -/
def isOneOf (operand : Operand) (s : Scalar) : Bool :=
  match operand with
  | .list items => hasSame .sensitive items s
  | .scalar (.string chars) =>
    match s.string?.map String.toList with
    | some [c] => chars.toList.contains c
    | _ => false
  | .scalar _ => false

/-- Whether a scalar, or some item of an array, is one of the items of the
operand. -/
def evalOneOf (value : Value) (operand : Operand) : Except LookupError Bool := do
  match operand with
  | .scalar (.string _) | .list _ => pure ()
  | .scalar s => throw (.invalidArgument Op.oneOf.name (.expectedListOrString s.type))
  match value with
  | .scalar s => return isOneOf operand s
  | .array items => return items.any (isOneOf operand)

/-- The order of two scalars, which must have one. -/
def ordered (op : Op) (a b : Scalar) : Except LookupError Ordering :=
  match a.compare? b with
  | some o => .ok o
  | none => .error (.typeMismatch op.name a.type b.type)

/-- Whether a scalar stands in an order to the operand. -/
def evalOrder (op : Op) (value : Value) (operand : Operand) : Except LookupError Bool := do
  let s ← op.needScalar value
  match operand with
  | .list _ => throw (.typeMismatch op.name s.type .list)
  | .scalar other => return op.fitsOrder (← op.ordered s other)

/-- Whether a scalar lies between the two items of the operand.  The upper bound
is looked at only if the lower one holds. -/
def evalRange (value : Value) (operand : Operand) : Except LookupError Bool := do
  let s ← Op.range.needScalar value
  match operand with
  | .list [low, high] =>
    if (← Op.range.ordered s low) == .lt then return false
    else return (← Op.range.ordered s high) != .gt
  | _ => throw (.invalidArgument Op.range.name .expectedPair)

/-- Whether a value is null, as the operand asks. -/
def evalIsNull (value : Value) (operand : Operand) : Except LookupError Bool :=
  match operand with
  | .scalar (.bool wanted) => .ok (value.isNull == wanted)
  | operand => .error (.invalidArgument Op.isNull.name (.expectedBool operand.type))

section

variable [PatternEngine]

/-- The pattern that an operand writes. -/
def compilePattern (op : Op) (operand : Operand) : Except LookupError Pattern :=
  match operand.string? with
  | none => .error (.invalidArgument op.name (.expectedPattern operand.type))
  | some text =>
    match PatternEngine.compile? (op.caseRule == .insensitive) text.toList with
    | some pattern => .ok pattern
    | none => .error .invalidPattern

/-- Whether a string has a match of a pattern. -/
def evalPattern (op : Op) (value : Value) (pattern : Pattern) : Except LookupError Bool := do
  match ← op.needScalar value with
  | .null => return false
  | .string s => return PatternEngine.occursIn pattern s.toList
  | s => throw (.typeMismatch op.name s.type .string)

end

/-- Whether an array has as many items as the operand says. -/
def evalLength (op : Op) (value : Value) (operand : Operand) : Except LookupError Bool := do
  let items ← op.needArray value
  match operand.scalar?.bind Scalar.natural? with
  | some n => return items.length == n
  | none => throw (.invalidArgument op.name (.expectedLength operand.type))

variable [PatternEngine]

/-- The pattern that a lookup will search for, if it takes one. -/
def prepare (op : Op) (operand : Operand) : Except LookupError (Option Pattern) :=
  match op with
  | .regex _ => (op.compilePattern operand).map some
  | _ => .ok none

/-- Evaluates a lookup with the pattern that was prepared for it; without one the
pattern is taken from the operand. -/
def evalWith (op : Op) (pattern : Option Pattern) (value : Value) (operand : Operand) :
    Except LookupError Bool :=
  match op with
  | .exact rule => .ok (evalExact rule value operand)
  | .contains _ => evalContains op value operand
  | .startsWith _ => evalAffix op Text.startsWith value operand
  | .endsWith _ => evalAffix op Text.endsWith value operand
  | .oneOf => evalOneOf value operand
  | .order _ => evalOrder op value operand
  | .range => evalRange value operand
  | .isNull => evalIsNull value operand
  | .regex _ => do
    match pattern with
    | some pattern => evalPattern op value pattern
    | none => evalPattern op value (← op.compilePattern operand)
  | .containedBy => do
    return (← op.needArray value).all (hasSame .sensitive operand.items)
  | .overlap => do
    let items ← op.needArray value
    return operand.items.any (hasSame .sensitive items)
  | .length => evalLength op value operand

/-- **Evaluates a lookup on a value and an operand.** -/
def eval (op : Op) (value : Value) (operand : Operand) : Except LookupError Bool :=
  op.evalWith none value operand

end Op
end RecordQuery

/-
# Predicates ready to be registered

A few tests on a value and an operand that are not built in but can be
registered under any name.
-/

import RecordQuery.Lookup.Registry
import RecordQuery.Text.Words

namespace RecordQuery
namespace Predicate

/-- Holds always. -/
def always (_ : Value) (_ : Operand) : Bool := true

/-- Holds never. -/
def never (_ : Value) (_ : Operand) : Bool := false

/-- The number of words of a string, with white space between them. -/
def wordsIn (s : String) : Nat := (Text.words Unicode.isWhiteSpace s.toList).length

/-- Holds of a string with as many words as the operand says. -/
def wordCount (value : Value) (operand : Operand) : Bool :=
  match value, operand.scalar?.bind Scalar.natural? with
  | .scalar (.string s), some n => wordsIn s == n
  | _, _ => false

/-- Holds of an even integer that is not negative. -/
def even (value : Value) (_ : Operand) : Bool :=
  match value with
  | .scalar s => s.natural?.any fun n => n % 2 == 0
  | .array _ => false

/-- Holds of an array whose first item equals the operand. -/
def firstIs (value : Value) (operand : Operand) : Bool :=
  match value, operand with
  | .array (item :: _), .scalar s => item.same s
  | _, _ => false

/-- Holds when value and operand have equally many items; a scalar counts as
one. -/
def operandLength (value : Value) (operand : Operand) : Bool :=
  let length := match value with
    | .scalar _ => 1
    | .array items => items.length
  length == operand.items.length

/-- The predicates under the names that they are asked for by. -/
def named : List (String × (Value → Operand → Bool)) :=
  [("always", always), ("word_count", wordCount), ("even", even), ("first_is", firstIs),
    ("operand_len", operandLength)]

/-- The predicate of a name; an unknown name has the one that never holds. -/
def ofName (name : String) : Value → Operand → Bool := (named.lookup name).getD never

end Predicate
end RecordQuery

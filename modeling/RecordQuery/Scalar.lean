/-
# Scalars

A scalar is a leaf of a record: null, a boolean, a number or a string.  Numbers
are equal when their values are, whatever their storage.  Only two strings, two
booleans or two numbers stand in an order; null stands in none.
-/

import RecordQuery.Json.Basic
import RecordQuery.Number.Order
import RecordQuery.Number.Text
import RecordQuery.Text.Inspect
import RecordQuery.Text.Casing

namespace RecordQuery

/-- A leaf of a record. -/
inductive Scalar where
  | null
  | bool (b : Bool)
  | number (n : Number)
  | string (s : String)
  deriving DecidableEq, Repr, Inhabited

namespace Scalar

/-- The type of a scalar. -/
def type : Scalar → TypeName
  | .null => .null
  | .bool _ => .bool
  | .number _ => .number
  | .string _ => .string

/-- The boolean, if it is one. -/
def bool? : Scalar → Option Bool
  | .bool b => some b
  | _ => none

/-- The number, if it is one. -/
def number? : Scalar → Option Number
  | .number n => some n
  | _ => none

/-- The string, if it is one. -/
def string? : Scalar → Option String
  | .string s => some s
  | _ => none

/-- The value of an integer that is not negative, if it is one. -/
def natural? (s : Scalar) : Option Nat := s.number?.bind Number.natural?

/-- The scalar that a JSON leaf holds; arrays and objects hold none. -/
def ofJson? : Json → Option Scalar
  | .null => some .null
  | .bool b => some (.bool b)
  | .number n => some (.number n.toNumber)
  | .string s => some (.string s)
  | .array _ => none
  | .object _ => none

/-- The scalar as a JSON leaf.  A number without a JSON form becomes null. -/
def toJson : Scalar → Json
  | .null => .null
  | .bool b => .bool b
  | .number n => ((JsonNumber.ofNumber? n).map Json.number).getD .null
  | .string s => .string s

/-- Whether two scalars are equal. -/
def same : Scalar → Scalar → Bool
  | .null, .null => true
  | .bool a, .bool b => a == b
  | .number a, .number b => a.same b
  | .string a, .string b => a == b
  | _, _ => false

/-- The order of two strings, character by character. -/
def compareText : List Char → List Char → Ordering
  | [], [] => .eq
  | [], _ :: _ => .lt
  | _ :: _, [] => .gt
  | a :: as, b :: bs =>
    if a.toNat < b.toNat then .lt else if b.toNat < a.toNat then .gt else compareText as bs

/-- The order of two booleans: false comes first. -/
def compareBool : Bool → Bool → Ordering
  | false, true => .lt
  | true, false => .gt
  | _, _ => .eq

/-- The order of two scalars of one type, if they have one. -/
def compare? : Scalar → Scalar → Option Ordering
  | .string a, .string b => some (compareText a.toList b.toList)
  | .bool a, .bool b => some (compareBool a b)
  | .number a, .number b => a.compare? b
  | _, _ => none

/-- A string in lower case; all else as it is. -/
def foldCase : Scalar → Scalar
  | .string s => .string (String.ofList (Text.lowercase s.toList))
  | s => s

/-- The word for a truth value. -/
def boolWord (b : Bool) : String := if b then "true" else "false"

/-- A scalar for reading by people. -/
def display : Scalar → String
  | .null => "null"
  | .bool b => boolWord b
  | .number n => n.display
  | .string s => Text.inspect s

/-- A scalar with its type. -/
def inspect : Scalar → String
  | .null => "Null"
  | .bool b => "Bool(" ++ boolWord b ++ ")"
  | .number n => "Number(" ++ n.inspect ++ ")"
  | .string s => "String(" ++ Text.inspect s ++ ")"

/-- Scalars one after the other between brackets. -/
def inspectList (items : List Scalar) : String :=
  "[" ++ ", ".intercalate (items.map inspect) ++ "]"

end Scalar
end RecordQuery

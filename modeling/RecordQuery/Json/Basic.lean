/-
# JSON values

A JSON value is a leaf, an array or an object.  The members of an object keep
their order.  A number is either an integer that fits into 64 bits, signed or
unsigned, or a finite floating-point number; no number has two forms.
-/

import RecordQuery.Number.Basic
import RecordQuery.TypeName

namespace RecordQuery

/-- A JSON number. -/
inductive JsonNumber where
  | int (n : Int) (fits : -2 ^ 63 ≤ n ∧ n < 2 ^ 64)
  | float (x : Binary64) (finite : x.isFinite = true)
  deriving DecidableEq, Repr

/-- A JSON value. -/
inductive Json where
  | null
  | bool (b : Bool)
  | number (n : JsonNumber)
  | string (s : String)
  | array (items : List Json)
  | object (members : List (String × Json))
  deriving Inhabited

namespace JsonNumber

/-- The number as it is stored: signed if it fits, else unsigned. -/
def toNumber : JsonNumber → Number
  | .int n _ => if n < 2 ^ 63 then .signed (Int64.ofInt n) else .unsigned (UInt64.ofNat n.toNat)
  | .float x _ => .float x

/-- A signed integer is one of the integers of a JSON number. -/
theorem signed_fits (n : Int64) : -2 ^ 63 ≤ n.toInt ∧ n.toInt < 2 ^ 64 := by
  have hlow := n.le_toInt
  have hhigh := n.toInt_lt
  omega

/-- So is an unsigned one. -/
theorem unsigned_fits (n : UInt64) : -2 ^ 63 ≤ (n.toNat : Int) ∧ (n.toNat : Int) < 2 ^ 64 := by
  have hhigh := n.toNat_lt
  omega

/-- The JSON form of a number; infinity and what is not a number have none. -/
def ofNumber? : Number → Option JsonNumber
  | .signed n => some (.int n.toInt (signed_fits n))
  | .unsigned n => some (.int n.toNat (unsigned_fits n))
  | .float x => if h : x.isFinite = true then some (.float x h) else none

end JsonNumber

namespace Json

/-- The type of a JSON value. -/
def type : Json → TypeName
  | .null => .null
  | .bool _ => .bool
  | .number _ => .number
  | .string _ => .string
  | .array _ => .array
  | .object _ => .object

/-- Whether a value is an object. -/
def isObject : Json → Bool
  | .object _ => true
  | _ => false

/-- The integer `n`, if it fits. -/
def ofInt? (n : Int) : Option Json :=
  if h : -2 ^ 63 ≤ n ∧ n < 2 ^ 64 then some (.number (.int n h)) else none

end Json
end RecordQuery

/-
# Numbers

A number is a signed 64-bit integer, an unsigned 64-bit integer or a 64-bit
floating-point number.  The three kinds are kept apart when a number is stored
and written; how they compare is a matter of `RecordQuery.Number.Order`.
-/

import RecordQuery.Number.Binary64

namespace RecordQuery

/-- A number in one of three storages. -/
inductive Number where
  | signed (n : Int64)
  | unsigned (n : UInt64)
  | float (x : Binary64)
  deriving DecidableEq, Repr

namespace Number

/-- The nearest floating-point number. -/
def toBinary64 : Number → Binary64
  | .signed n => .ofInt n.toInt
  | .unsigned n => .ofInt n.toNat
  | .float x => x

/-- The value of an integer that is not negative.  A floating-point number has
none, even when it is whole. -/
def natural? : Number → Option Nat
  | .signed n => if 0 ≤ n.toInt then some n.toInt.toNat else none
  | .unsigned n => some n.toNat
  | .float _ => none

end Number
end RecordQuery

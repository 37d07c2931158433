/-
# The order of numbers

Numbers compare by value, whatever their storage, and what is not a number
compares with nothing.

| storages | comparison |
| --- | --- |
| two of one kind | as such |
| signed and unsigned | a negative integer is less; any other is compared as unsigned |
| integer and floating-point | without rounding the integer: see `Binary64.compareInt?` |

An integer of 64 bits may have no floating-point number of its own, so it is the
floating-point number that is cut off to an integer.  Beyond all integers of 64
bits its size alone decides; elsewhere the integers are compared, and if they are
equal then what was cut off decides.
-/

import RecordQuery.Number.Basic

namespace RecordQuery

/-- A place of the line of whole numbers with an end on either side. -/
inductive Extended where
  | negInf
  | finite (n : Int)
  | posInf
  deriving DecidableEq, Repr

namespace Extended

/-- The order of the extended line. -/
def compare : Extended → Extended → Ordering
  | .negInf, .negInf => .eq
  | .negInf, _ => .lt
  | _, .negInf => .gt
  | .posInf, .posInf => .eq
  | .posInf, _ => .gt
  | _, .posInf => .lt
  | .finite a, .finite b => Ord.compare a b

end Extended

namespace Binary64

/-- How many units of `2^-1074` a finite number is away from zero, with its sign. -/
def signedUnits (x : Binary64) : Int := if x.negative then -(x.units : Int) else x.units

/-- Where a floating-point number stands, in units of `2^-1074`. -/
def place? (x : Binary64) : Option Extended :=
  if x.isNaN then none
  else if x.isFinite then some (.finite x.signedUnits)
  else some (if x.negative then .negInf else .posInf)

/-- The order of two floating-point numbers. -/
def compare? (x y : Binary64) : Option Ordering :=
  match x.place?, y.place? with
  | some p, some q => some (p.compare q)
  | _, _ => none

/-- Whether a floating-point number is less than another. -/
def isLess (x y : Binary64) : Bool := x.compare? y == some .lt

/-- Whether a floating-point number is equal to another or greater. -/
def isAtLeast (x y : Binary64) : Bool := x.compare? y == some .eq || x.compare? y == some .gt

/-- A number without its fraction.  Below one nothing but the sign is left;
otherwise the bits that count less than one are cleared. -/
def truncate (x : Binary64) : Binary64 :=
  if x.scale < 1022 then zero x.negative
  else ofMagnitude x.negative
    (x.magnitude / 2 ^ (1074 - x.scale) * 2 ^ (1074 - x.scale))

/-- The whole part of a number as an integer of 128 bits.  What is too large
becomes the largest or the least such integer, and what is not a number zero. -/
def toInt128 (x : Binary64) : Int :=
  match x.place? with
  | none => 0
  | some .negInf => -2 ^ 127
  | some .posInf => 2 ^ 127 - 1
  | some (.finite n) => max (-2 ^ 127) (min (n.tdiv unitsPerOne) (2 ^ 127 - 1))

/-- The number nearest to the difference of two finite ones. -/
def sub (x y : Binary64) : Binary64 :=
  let units := x.signedUnits - y.signedUnits
  ofRatio (units < 0) units.natAbs unitsPerOne

/-- The number `2^64`, which is above all integers of 64 bits. -/
def aboveIntegers : Binary64 := ofInt (2 ^ 64)

/-- The number `-2^63`, which no integer of 64 bits is below. -/
def belowIntegers : Binary64 := ofInt (-2 ^ 63)

/-- **The order of a 64-bit integer and a floating-point number.** -/
def compareInt? (n : Int) (x : Binary64) : Option Ordering :=
  if x.isNaN then none
  else if x.isAtLeast aboveIntegers then some .lt
  else if x.isLess belowIntegers then some .gt
  else
    let whole := x.truncate
    match compare n whole.toInt128 with
    | .eq => (whole.sub x).compare? (zero false)
    | unequal => some unequal

end Binary64

namespace Number

/-- The order of a signed and an unsigned integer. -/
def compareMixed (a : Int64) (b : UInt64) : Ordering :=
  if 0 ≤ a.toInt then compare a.toInt.toNat b.toNat else .lt

/-- **The order of two numbers by value;** there is none with what is not a
number. -/
def compare? : Number → Number → Option Ordering
  | .signed a, .signed b => some (compare a.toInt b.toInt)
  | .unsigned a, .unsigned b => some (compare a.toNat b.toNat)
  | .float x, .float y => x.compare? y
  | .signed a, .unsigned b => some (compareMixed a b)
  | .unsigned a, .signed b => some (compareMixed b a).swap
  | .signed a, .float x => x.compareInt? a.toInt
  | .unsigned a, .float x => x.compareInt? a.toNat
  | .float x, .signed b => (x.compareInt? b.toInt).map .swap
  | .float x, .unsigned b => (x.compareInt? b.toNat).map .swap

/-- Whether two numbers have the same value. -/
def same (a b : Number) : Bool := a.compare? b == some .eq

end Number
end RecordQuery

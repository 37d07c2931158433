/-
# The shortest decimal that reads back

Every finite number has a decimal with at most seventeen digits to which it is
the nearest number.  The shortest such decimal is found by trying one digit,
then two, and so on.  On the grid of decimals with that many digits only the two
neighbours of the number can read back; if both do, the nearer one is taken, and
the caller says what happens half way between them.
-/

import RecordQuery.Number.Binary64

namespace RecordQuery

/-- The decimal number `digits · 10^exponent`. -/
structure Decimal where
  digits : Nat
  exponent : Int
  deriving DecidableEq, Repr

/-- Which of two equally near decimals is taken. -/
inductive Tie where
  | awayFromZero
  | toEven
  deriving DecidableEq, Repr

namespace Decimal

/-- Drops up to `fuel` zeros at the end of the digits. -/
def trimZeros : Nat → Decimal → Decimal
  | 0, d => d
  | fuel + 1, d =>
    if d.digits % 10 = 0 then trimZeros fuel ⟨d.digits / 10, d.exponent + 1⟩ else d

/-- The power of ten of the leading digit. -/
def leadingExponent (d : Decimal) : Int := d.exponent + Binary64.decimalLength d.digits - 1

end Decimal

namespace Binary64

/-- The power of ten of the leading digit of a positive number. -/
def leadingExponent (x : Binary64) : Int :=
  (decimalLength (x.units * 10 ^ 400 / unitsPerOne) : Int) - 401

/-- Whether the decimal reads back as `x`, leaving the sign aside. -/
def readsBack (x : Binary64) (d : Decimal) : Bool :=
  (ofDecimal false d.digits d.exponent).magnitude = x.magnitude

/-- The decimal with last place `10^place` that reads back as `x`, if there is
one. -/
def onGrid? (tie : Tie) (x : Binary64) (place : Int) : Option Decimal :=
  let num := if 0 ≤ place then x.units else x.units * 10 ^ (-place).toNat
  let den := if 0 ≤ place then unitsPerOne * 10 ^ place.toNat else unitsPerOne
  let low := num / den
  let twice := 2 * (num % den)
  let takeHigh := den < twice || (den = twice && (tie = .awayFromZero || low % 2 = 1))
  let below : Decimal := ⟨low, place⟩
  let above : Decimal := ⟨low + 1, place⟩
  match x.readsBack below, x.readsBack above with
  | true, true => some (if takeHigh then above else below)
  | true, false => some below
  | false, true => some above
  | false, false => none

/-- **The shortest decimal that reads back** as the finite number `x`, which is
not zero; its last digit is not zero.  Should none of up to seventeen digits do,
the exact value is used. -/
def shortest (tie : Tie) (x : Binary64) : Decimal :=
  let found := (List.range 17).findSome? fun (n : Nat) => x.onGrid? tie (x.leadingExponent - n)
  (found.getD ⟨x.units * 5 ^ 1074, -1074⟩).trimZeros 400

end Binary64
end RecordQuery

/-
# Binary64: 64-bit floating-point numbers, exactly

A number is its 64 bits: one sign bit, eleven exponent bits `e` and 52 fraction
bits `f`.  Read without the sign, the bits count as follows.

| bits | value |
| --- | --- |
| `e = 0` | `f · 2^-1074` |
| `0 < e < 2047` | `(2^52 + f) · 2^(e-1) · 2^-1074` |
| `e = 2047`, `f = 0` | infinity |
| `e = 2047`, `f ≠ 0` | not a number |

So every finite number is a whole count of units of `2^-1074`, and all of the
arithmetic below is on whole numbers.  A significand `m` and a scale `q` are
stored as `q · 2^52 + m`, which is increasing in the value; hence rounding may
carry from one scale into the next without a special case.
-/

-- A power of whole numbers is the core library's one, whatever else is in scope.
attribute [default_instance (high + 1), instance (high + 1)] instPowNat

namespace RecordQuery

/-- A 64-bit floating-point number, given by its bits. -/
structure Binary64 where
  bits : UInt64
  deriving DecidableEq, Repr, Inhabited

namespace Binary64

/-- The bits of positive infinity. -/
def infinityBits : Nat := 0x7FF0000000000000

/-- Whether the sign bit is set. -/
def negative (x : Binary64) : Bool := 2 ^ 63 ≤ x.bits.toNat

/-- The bits without the sign. -/
def magnitude (x : Binary64) : Nat := x.bits.toNat % 2 ^ 63

/-- Not a number. -/
def isNaN (x : Binary64) : Bool := infinityBits < x.magnitude

/-- Neither infinite nor not a number. -/
def isFinite (x : Binary64) : Bool := x.magnitude < infinityBits

/-- The scale `q` of a magnitude: its value is the significand times `2^q`
units. -/
def scale (x : Binary64) : Nat := x.magnitude / 2 ^ 52 - 1

/-- The significand of a magnitude, below `2^53`. -/
def significand (x : Binary64) : Nat :=
  if x.magnitude / 2 ^ 52 = 0 then x.magnitude % 2 ^ 52 else 2 ^ 52 + x.magnitude % 2 ^ 52

/-- How many units of `2^-1074` a finite number is away from zero. -/
def units (x : Binary64) : Nat := x.significand * 2 ^ x.scale

/-- **Scale and significand make up the magnitude.** -/
theorem magnitude_eq (x : Binary64) : x.magnitude = x.scale * 2 ^ 52 + x.significand := by
  unfold scale significand
  split <;> omega

/-- How many units make up the number one. -/
def unitsPerOne : Nat := 2 ^ 1074

/-- The number with a given sign and magnitude. -/
def ofMagnitude (negative : Bool) (magnitude : Nat) : Binary64 :=
  ⟨UInt64.ofNat (magnitude + if negative then 2 ^ 63 else 0)⟩

/-- Zero, of either sign. -/
def zero (negative : Bool) : Binary64 := ofMagnitude negative 0

/-- Infinity, of either sign. -/
def infinity (negative : Bool) : Binary64 := ofMagnitude negative infinityBits

/-- The quotient `a / b` rounded to a whole number, a half to the even
neighbour. -/
def roundHalfEven (a b : Nat) : Nat :=
  let k := a / b
  let twice := 2 * (a % b)
  if twice < b then k else if b < twice then k + 1 else k + k % 2

/-- The scale at which `whole` units are rounded: the least one at which the
significand stays below `2^53`. -/
def scaleFor (whole : Nat) : Nat := if whole < 2 ^ 53 then 0 else whole.log2 - 52

/-- **The number nearest to `num / den`,** of two equally near ones the one with
the even significand; infinity from half a unit beyond the largest finite
number on. -/
def ofRatio (negative : Bool) (num den : Nat) : Binary64 :=
  let scaled := num * unitsPerOne
  let q := scaleFor (scaled / den)
  ofMagnitude negative (min infinityBits (q * 2 ^ 52 + roundHalfEven scaled (den * 2 ^ q)))

/-- The number nearest to a whole number. -/
def ofInt (n : Int) : Binary64 := ofRatio (n < 0) n.natAbs 1

/-- The number of decimal digits. -/
def decimalLength (n : Nat) : Nat := (Nat.toDigits 10 n).length

/-- The number nearest to `digits · 10^exponent`.  Beyond `10^310` everything is
infinite and below `10^-330` everything is zero, so no larger power of ten is
ever formed. -/
def ofDecimal (negative : Bool) (digits : Nat) (exponent : Int) : Binary64 :=
  if digits = 0 then zero negative
  else
    let top := exponent + decimalLength digits
    if 310 < top then infinity negative
    else if top < -330 then zero negative
    else if 0 ≤ exponent then ofRatio negative (digits * 10 ^ exponent.toNat) 1
    else ofRatio negative digits (10 ^ (-exponent).toNat)

/-- The 64-bit number equal to a 32-bit one given by its bits: one sign bit,
eight exponent bits and 23 fraction bits. -/
def ofBinary32 (bits : UInt32) : Binary64 :=
  let negative := 2 ^ 31 ≤ bits.toNat
  let magnitude := bits.toNat % 2 ^ 31
  let fraction := magnitude % 2 ^ 23
  let e := magnitude / 2 ^ 23
  if e = 255 then
    if fraction = 0 then infinity negative else ofMagnitude negative (infinityBits + 2 ^ 51)
  else if e = 0 then ofRatio negative fraction (2 ^ 149)
  else ofRatio negative ((2 ^ 23 + fraction) * 2 ^ (e - 1)) (2 ^ 149)

end Binary64
end RecordQuery

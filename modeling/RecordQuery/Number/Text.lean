/-
# Numbers as text

The digits of a floating-point number are the shortest ones that read back; how
they are laid out is up to the format.  A layout says which exponents are
written positionally, what marks a whole number, how an exponent is signed, what
is written for infinity and for what is not a number, and which of two equally
near decimals is taken.
-/

import RecordQuery.Number.Basic
import RecordQuery.Number.Shortest

namespace RecordQuery

/-- How a floating-point number is laid out. -/
structure Layout where
  /-- Which of two equally near decimals is taken. -/
  tie : Tie
  /-- Whether a number with this power of ten in front is written without an
  exponent. -/
  positional : Int → Bool
  /-- What follows a whole number written positionally. -/
  whole : String
  /-- What stands before an exponent that is not negative. -/
  plus : String
  /-- The text of positive infinity. -/
  infinity : String
  /-- The text of what is not a number. -/
  notANumber : String

namespace Layout

/-- The layout for reading by people: never an exponent, nothing after a whole
number. -/
def plain : Layout where
  tie := .awayFromZero
  positional := fun _ => true
  whole := ""
  plus := ""
  infinity := "inf"
  notANumber := "NaN"

/-- The layout for inspection: positional from `10^-4` up to `10^16`, and a whole
number shows that it is a floating-point number. -/
def inspection : Layout where
  tie := .awayFromZero
  positional := fun e => -4 ≤ e && e < 16
  whole := ".0"
  plus := ""
  infinity := "inf"
  notANumber := "NaN"

/-- The layout for interchange: positional from `10^-5` up to `10^16`, signed
exponents, and `null` for what has no decimal. -/
def interchange : Layout where
  tie := .toEven
  positional := fun e => -5 ≤ e && e < 16
  whole := ".0"
  plus := "+"
  infinity := "null"
  notANumber := "null"

/-- The decimal digits of a whole number. -/
def digits (n : Nat) : String := String.ofList (Nat.toDigits 10 n)

/-- A row of zeros. -/
def zeros (n : Nat) : String := String.ofList (List.replicate n '0')

/-- A decimal without an exponent. -/
def positionalText (layout : Layout) (d : Decimal) : String :=
  let ds := Nat.toDigits 10 d.digits
  if 0 ≤ d.exponent then String.ofList ds ++ zeros d.exponent.toNat ++ layout.whole
  else
    let places := (-d.exponent).toNat
    if places < ds.length then
      String.ofList (ds.take (ds.length - places)) ++ "." ++
        String.ofList (ds.drop (ds.length - places))
    else "0." ++ zeros (places - ds.length) ++ String.ofList ds

/-- A decimal with one digit before the point and an exponent. -/
def scientificText (layout : Layout) (d : Decimal) : String :=
  let ds := Nat.toDigits 10 d.digits
  let e := d.leadingExponent
  let rest := ds.drop 1
  String.ofList (ds.take 1) ++ (if rest.isEmpty then "" else "." ++ String.ofList rest) ++
    "e" ++ (if e < 0 then "-" else layout.plus) ++ digits e.natAbs

/-- The text of a floating-point number. -/
def text (layout : Layout) (x : Binary64) : String :=
  if x.isNaN then layout.notANumber
  else
    let sign := if x.negative then "-" else ""
    if x.magnitude = 0 then sign ++ "0" ++ layout.whole
    else if x.isFinite then
      let d := x.shortest layout.tie
      sign ++ if layout.positional d.leadingExponent then layout.positionalText d
        else layout.scientificText d
    else sign ++ layout.infinity

end Layout

/-- The decimal digits of an integer, after a `-` if it is negative. -/
def intText (n : Int) : String :=
  (if n < 0 then "-" else "") ++ Layout.digits n.natAbs

namespace Number

/-- A number for reading by people. -/
def display : Number → String
  | .signed n => intText n.toInt
  | .unsigned n => intText n.toNat
  | .float x => Layout.plain.text x

/-- A number with its storage. -/
def inspect : Number → String
  | .signed n => "I64(" ++ intText n.toInt ++ ")"
  | .unsigned n => "U64(" ++ intText n.toNat ++ ")"
  | .float x => "F64(" ++ Layout.inspection.text x ++ ")"

end Number
end RecordQuery

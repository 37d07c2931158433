/-
# The words of JSON text

JSON text is a row of tokens with blanks between them.  Each token has one
written form, `Token.written`; reading, `Token.scan?`, also accepts the other
forms that the grammar allows: escapes that are not needed and any spelling of a
number.
-/

import RecordQuery.Json.Basic
import RecordQuery.Number.Text

namespace RecordQuery
namespace Json

/-- A word of JSON text. -/
inductive Token where
  | openArray
  | closeArray
  | openObject
  | closeObject
  | comma
  | colon
  | null
  | bool (b : Bool)
  | number (n : JsonNumber)
  | string (s : String)

/-! ### Writing -/

/-- A character inside a string.  Quotation marks, backslashes and controls are
escaped, all else stands for itself. -/
def escape (c : Char) : List Char :=
  if c = '"' then ['\\', '"']
  else if c = '\\' then ['\\', '\\']
  else if c = '\n' then ['\\', 'n']
  else if c = '\r' then ['\\', 'r']
  else if c = '\t' then ['\\', 't']
  else if c = '\x08' then ['\\', 'b']
  else if c = '\x0c' then ['\\', 'f']
  else if c.toNat < 0x20 then
    ['\\', 'u', '0', '0', Nat.digitChar (c.toNat / 16), Nat.digitChar (c.toNat % 16)]
  else [c]

/-- A string between quotation marks. -/
def quote (s : String) : List Char := '"' :: (s.toList.flatMap escape ++ ['"'])

/-- The text of a number. -/
def numberText : JsonNumber → String
  | .int n _ => intText n
  | .float x _ => Layout.interchange.text x

/-- The written form of a token. -/
def Token.written : Token → List Char
  | .openArray => ['[']
  | .closeArray => [']']
  | .openObject => ['\x7b']
  | .closeObject => ['\x7d']
  | .comma => [',']
  | .colon => [':']
  | .null => "null".toList
  | .bool true => "true".toList
  | .bool false => "false".toList
  | .number n => (numberText n).toList
  | .string s => quote s

/-! ### Reading -/

/-- Blanks between tokens. -/
def isBlank (c : Char) : Bool := c = ' ' || c = '\n' || c = '\t' || c = '\r'

/-- The value of a hexadecimal digit. -/
def hexValue? (c : Char) : Option Nat :=
  if '0' ≤ c ∧ c ≤ '9' then some (c.toNat - '0'.toNat)
  else if 'a' ≤ c ∧ c ≤ 'f' then some (c.toNat - 'a'.toNat + 10)
  else if 'A' ≤ c ∧ c ≤ 'F' then some (c.toNat - 'A'.toNat + 10)
  else none

/-- The number written with four hexadecimal digits. -/
def hexValue4? (a b c d : Char) : Option Nat := do
  let a ← hexValue? a
  let b ← hexValue? b
  let c ← hexValue? c
  let d ← hexValue? d
  return ((a * 16 + b) * 16 + c) * 16 + d

/-- The character that a one-letter escape stands for. -/
def unescape? (c : Char) : Option Char :=
  if c = '"' then some '"'
  else if c = '\\' then some '\\'
  else if c = '/' then some '/'
  else if c = 'b' then some '\x08'
  else if c = 'f' then some '\x0c'
  else if c = 'n' then some '\n'
  else if c = 'r' then some '\r'
  else if c = 't' then some '\t'
  else none

/-- The first half of a character beyond `U+FFFF`. -/
def isLeading (n : Nat) : Bool := 0xD800 ≤ n && n ≤ 0xDBFF

/-- The second half of a character beyond `U+FFFF`. -/
def isTrailing (n : Nat) : Bool := 0xDC00 ≤ n && n ≤ 0xDFFF

/-- A string up to its closing quotation mark, and what follows it.  Controls
must be escaped, and the two halves of a character must stand together. -/
def unquote? : List Char → Option (List Char × List Char)
  | [] => none
  | '"' :: rest => some ([], rest)
  | '\\' :: 'u' :: a :: b :: c :: d :: rest => do
    let n ← hexValue4? a b c d
    if isLeading n then
      match rest with
      | '\\' :: 'u' :: a :: b :: c :: d :: rest =>
        let low ← hexValue4? a b c d
        if isTrailing low then
          let (s, rest) ← unquote? rest
          return (Char.ofNat (0x10000 + (n - 0xD800) * 0x400 + (low - 0xDC00)) :: s, rest)
        else none
      | _ => none
    else if isTrailing n then none
    else
      let (s, rest) ← unquote? rest
      return (Char.ofNat n :: s, rest)
  | '\\' :: c :: rest => do
    let c ← unescape? c
    let (s, rest) ← unquote? rest
    return (c :: s, rest)
  | c :: rest => do
    if c.toNat < 0x20 || c = '\\' then none
    else
      let (s, rest) ← unquote? rest
      return (c :: s, rest)
termination_by structural cs => cs

/-- Decimal digits. -/
def isDigit (c : Char) : Bool := '0' ≤ c && c ≤ '9'

/-- The number that a row of decimal digits denotes. -/
def digitsValue (ds : List Char) : Nat :=
  ds.foldl (fun n c => 10 * n + (c.toNat - '0'.toNat)) 0

/-- The whole part of a number: a zero, or digits that do not begin with one. -/
def scanWhole? (cs : List Char) : Option (List Char × List Char) :=
  match cs.takeWhile isDigit, cs.dropWhile isDigit with
  | [], _ => none
  | '0' :: _ :: _, _ => none
  | ds, rest => some (ds, rest)

/-- The digits after the point, if there is one. -/
def scanFraction? : List Char → Option (List Char × List Char)
  | '.' :: cs =>
    match cs.takeWhile isDigit with
    | [] => none
    | ds => some (ds, cs.dropWhile isDigit)
  | cs => some ([], cs)

/-- The exponent, if there is one. -/
def scanExponent? : List Char → Option (Option Int × List Char)
  | c :: cs =>
    if c = 'e' ∨ c = 'E' then
      let (negative, cs) := match cs with
        | '-' :: cs => (true, cs)
        | '+' :: cs => (false, cs)
        | cs => (false, cs)
      match cs.takeWhile isDigit with
      | [] => none
      | ds =>
        let n : Int := digitsValue ds
        some (some (if negative then -n else n), cs.dropWhile isDigit)
    else some (none, c :: cs)
  | [] => some (none, [])

/-- A finite floating-point number as a JSON number. -/
def finite? (x : Binary64) : Option JsonNumber :=
  if h : x.isFinite = true then some (.float x h) else none

/-- A whole number.  Minus zero and what does not fit into 64 bits become
floating-point numbers. -/
def wholeNumber? (negative : Bool) (n : Nat) : Option JsonNumber :=
  let value : Int := if negative then -n else n
  if h : -2 ^ 63 ≤ value ∧ value < 2 ^ 64 then
    if negative && n = 0 then finite? (.zero true) else some (.int value h)
  else finite? (.ofDecimal negative n 0)

/-- A number, after its sign. -/
def scanNumber? (negative : Bool) (cs : List Char) : Option (JsonNumber × List Char) := do
  let (whole, cs) ← scanWhole? cs
  let (fraction, cs) ← scanFraction? cs
  let (exponent, cs) ← scanExponent? cs
  if fraction.isEmpty && exponent.isNone then
    return (← wholeNumber? negative (digitsValue whole), cs)
  else
    let x := Binary64.ofDecimal negative (digitsValue (whole ++ fraction))
      (exponent.getD 0 - fraction.length)
    return (← finite? x, cs)

/-- The token at the start of a text, and what follows it. -/
def Token.scan? : List Char → Option (Token × List Char)
  | '[' :: cs => some (.openArray, cs)
  | ']' :: cs => some (.closeArray, cs)
  | '\x7b' :: cs => some (.openObject, cs)
  | '\x7d' :: cs => some (.closeObject, cs)
  | ',' :: cs => some (.comma, cs)
  | ':' :: cs => some (.colon, cs)
  | 'n' :: 'u' :: 'l' :: 'l' :: cs => some (.null, cs)
  | 't' :: 'r' :: 'u' :: 'e' :: cs => some (.bool true, cs)
  | 'f' :: 'a' :: 'l' :: 's' :: 'e' :: cs => some (.bool false, cs)
  | '"' :: cs => (unquote? cs).map fun (s, rest) => (.string (String.ofList s), rest)
  | '-' :: cs => (scanNumber? true cs).map fun (n, rest) => (.number n, rest)
  | cs => (scanNumber? false cs).map fun (n, rest) => (.number n, rest)

/-- The tokens of a text, at most `fuel` of them. -/
def scanAll? : Nat → List Char → Option (List Token)
  | 0, cs => if cs.all isBlank then some [] else none
  | fuel + 1, cs =>
    match cs.dropWhile isBlank with
    | [] => some []
    | c :: cs => do
      let (token, rest) ← Token.scan? (c :: cs)
      let tokens ← scanAll? fuel rest
      return token :: tokens

/-- The tokens of a text.  Each takes at least one character, so there are no
more of them than characters. -/
def tokens? (text : List Char) : Option (List Token) := scanAll? text.length text

end Json
end RecordQuery

/-
# Characters as bytes

An automaton for a pattern reads bytes.  A character takes one to four of them,
and a range of characters is read as several sequences of byte ranges, each of
which stands for all the ways to choose one byte from every range:

| characters | byte ranges |
| --- | --- |
| `0`–`7F` | `00–7F` |
| `80`–`7FF` | `C2–DF` `80–BF` |
| `800`–`FFF` | `E0` `A0–BF` `80–BF` |

A range of characters is cut until each piece is of this kind.
-/

import RecordQuery.Unicode.Ranges

namespace RecordQuery
namespace Pattern

/-- The bytes of a character, first to last. -/
def bytesOf (c : Nat) : List Nat :=
  if c < 0x80 then [c]
  else if c < 0x800 then [0xC0 + c / 0x40, 0x80 + c % 0x40]
  else if c < 0x10000 then [0xE0 + c / 0x1000, 0x80 + c / 0x40 % 0x40, 0x80 + c % 0x40]
  else [0xF0 + c / 0x40000, 0x80 + c / 0x1000 % 0x40, 0x80 + c / 0x40 % 0x40, 0x80 + c % 0x40]

/-- A range of bytes, both ends included. -/
abbrev ByteRange := Nat × Nat

/-- Cuts a range of characters behind each of some code points, which increase. -/
def cutBehind : List Nat → Nat → Nat → Unicode.Ranges
  | [], lo, hi => [(lo, hi)]
  | cut :: cuts, lo, hi =>
    if lo ≤ cut && cut < hi then (lo, cut) :: cutBehind cuts (cut + 1) hi
    else cutBehind cuts lo hi

/-- Leaves the surrogates out of a range. -/
def withoutSurrogates (lo hi : Nat) : Unicode.Ranges :=
  if lo < 0xE000 && 0xD7FF < hi then [(lo, 0xD7FF), (0xE000, hi)] else [(lo, hi)]

/-- Cuts a range so that in each piece the last bytes run freely where the bytes
before them differ.  The blocks have the given sizes, which are powers of each
other; what sticks out of the blocks at either end is cut off. -/
def cutIntoBlocks : List Nat → Nat → Nat → Unicode.Ranges
  | [], lo, hi => [(lo, hi)]
  | size :: sizes, lo, hi =>
    if lo / size = hi / size then [(lo, hi)]
    else
      let start := if lo % size = 0 then lo else (lo / size + 1) * size
      let stop := if (hi + 1) % size = 0 then hi + 1 else hi / size * size
      (if lo < start then [(lo, start - 1)] else []) ++
        (if start < stop then cutIntoBlocks sizes start (stop - 1) else []) ++
        (if stop ≤ hi then [(stop, hi)] else [])

/-- The sequences of byte ranges for characters that all take as many bytes. -/
def alikeSequences (lo hi : Nat) : List (List ByteRange) :=
  if hi < 0x80 then [[(lo, hi)]]
  else (cutIntoBlocks [0x40, 0x1000, 0x40000] lo hi).map fun (lo, hi) =>
    (bytesOf lo).zip (bytesOf hi)

/-- The sequences of byte ranges that stand for a range of characters, in
increasing order. -/
def byteSequences (lo hi : Nat) : List (List ByteRange) :=
  (withoutSurrogates lo hi).flatMap fun (lo, hi) =>
    (cutBehind [0x7F, 0x7FF, 0xFFFF] lo hi).flatMap fun (lo, hi) => alikeSequences lo hi

example : byteSequences 0x80 0x7FF = [[(0xC2, 0xDF), (0x80, 0xBF)]] := by decide

end Pattern
end RecordQuery

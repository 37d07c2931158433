/-
# Characters moved together

Case mappings move long rows of characters by the same distance.  A shift is
such a row: every code point of it, or every second one, and the distance.
-/

namespace RecordQuery
namespace Unicode

/-- A stretch of code points, `stride` apart, that are all moved by `offset`. -/
structure Shift where
  first : Nat
  last : Nat
  stride : Nat
  offset : Int

namespace Shift

/-- Whether a code point is one of those that are moved. -/
def moves (s : Shift) (c : Nat) : Bool :=
  s.first ≤ c && c ≤ s.last && (c - s.first) % s.stride == 0

/-- Where a moved code point goes. -/
def target (s : Shift) (c : Nat) : Nat := ((c : Int) + s.offset).toNat

/-- Where a code point goes under a list of shifts in increasing order. -/
def apply : List Shift → Nat → Nat
  | [], c => c
  | s :: rest, c =>
    if c < s.first then c
    else if s.moves c then s.target c
    else apply rest c

/-- The code points that are moved. -/
def sources (s : Shift) : List Nat :=
  (List.range ((s.last - s.first) / s.stride + 1)).map fun i => s.first + i * s.stride

end Shift
end Unicode
end RecordQuery

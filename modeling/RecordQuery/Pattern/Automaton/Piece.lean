/-
# The size of an automaton

A pattern is accepted if the automaton that would search for it is not too
large.  The automaton is put together from pieces; here a piece is what it adds
to the size, and its states are only counted.

| state | goes on | bytes |
| --- | --- | ---: |
| plain | to one state, for one range of bytes, at one place, or freely | 32 |
| sorting | to a state for each of several ranges of bytes | 32 + 8 a range |
| fork | to several states freely | 32 + 4 a branch |
-/

namespace RecordQuery
namespace Pattern

/-- The bytes that an automaton may take. -/
def maxBytes : Nat := 10 * 1024 * 1024

/-- How many states there are, and the bytes that they take. -/
structure Size where
  states : Nat
  bytes : Nat
  deriving DecidableEq, Repr

namespace Size

/-- Adds some states, and the bytes that they or earlier ones take beyond 32
each, unless that is too much. -/
def grow? (size : Size) (states extra : Nat) : Option Size :=
  let size : Size := ⟨size.states + states, size.bytes + 32 * states + extra⟩
  if size.bytes ≤ maxBytes then some size else none

/-- The bytes for the ranges of a sorting state. -/
def rangeBytes (ranges : Nat) : Nat := 8 * ranges

/-- The bytes for the branches of a fork. -/
def branchBytes (branches : Nat) : Nat := 4 * branches

end Size

/-- What a piece ends in.  A fork takes one more branch when the piece is
continued, a plain state does not. -/
inductive End where
  | plain
  | fork
  deriving DecidableEq, Repr

/-- Continues a piece. -/
def Size.continue? (size : Size) : End → Option Size
  | .plain => some size
  | .fork => size.grow? 0 (Size.branchBytes 1)

/-- A piece of an automaton: the size with it, and its end, from the size without
it. -/
structure Piece where
  build? : Size → Option (Size × End)

namespace Piece

/-- Some plain states in a row, or some states with a plain one as their end. -/
def states (n : Nat) (extra : Nat) : Piece where
  build? size := (size.grow? n extra).map (·, .plain)

/-- A state that takes nothing. -/
def empty : Piece := states 1 0

/-- One piece after another. -/
def andThen (p q : Piece) : Piece where
  build? size := do
    let (size, e) ← p.build? size
    q.build? (← size.continue? e)

/-- Pieces in a row. -/
def row : List Piece → Piece
  | [] => empty
  | [p] => p
  | p :: ps => p.andThen (row ps)

/-- Adds `n` copies of a piece after an end. -/
def copiesAfter? (p : Piece) : Nat → Size × End → Option (Size × End)
  | 0, built => some built
  | n + 1, (size, e) => do copiesAfter? p n (← p.build? (← size.continue? e))

/-- Copies of a piece in a row. -/
def copies (p : Piece) : Nat → Piece
  | 0 => empty
  | n + 1 => ⟨fun size => do copiesAfter? p n (← p.build? size)⟩

/-- A piece between two plain states. -/
def enclosed (p : Piece) : Piece := (empty.andThen p).andThen empty

/-- A piece or nothing: a fork into the piece and past it. -/
def optional (p : Piece) : Piece where
  build? size := do
    let (size, e) ← p.build? (← size.grow? 1 (Size.branchBytes 2))
    return (← (← size.grow? 1 0).continue? e, .plain)

/-- A piece once or more: a fork behind it leads back. -/
def oneOrMore (p : Piece) : Piece where
  build? size := do
    let (size, e) ← p.build? size
    return (← (← size.grow? 1 (Size.branchBytes 1)).continue? e, .fork)

/-- A piece that takes something, any number of times: a fork before it, which it
leads back to. -/
def anyNumber (p : Piece) : Piece where
  build? size := do
    let (size, e) ← p.build? (← size.grow? 1 (Size.branchBytes 1))
    return (← size.continue? e, .fork)

/-- A piece that may take nothing, any number of times: once or more, or not at
all. -/
def anyNumberOfAny (p : Piece) : Piece where
  build? size := do
    let (size, e) ← p.build? size
    let size ← (← size.grow? 1 (Size.branchBytes 1)).continue? e
    return (← size.grow? 2 (Size.branchBytes 3), .plain)

/-- Adds up to `n` copies after an end: before each, a fork leads past the rest. -/
def optionalsAfter? (p : Piece) : Nat → Size × End → Option (Size × End)
  | 0, built => some built
  | n + 1, (size, e) => do
    let size ← (← size.grow? 1 (Size.branchBytes 2)).continue? e
    optionalsAfter? p n (← p.build? size)

/-- A piece at least `min` and at most `max` times. -/
def between (p : Piece) (min max : Nat) : Piece where
  build? size := do
    let (size, e) ← (p.copies min).build? size
    let (size, e) ← optionalsAfter? p (max - min) (← size.grow? 1 0, e)
    return (← size.continue? e, .plain)

/-- A piece as often as a repetition asks for; `takes` says whether the piece is
known to take something. -/
def repeated (p : Piece) (takes : Bool) : Nat → Option Nat → Piece
  | 0, none => if takes then p.anyNumber else p.anyNumberOfAny
  | 0, some 1 => p.optional
  | n + 1, none => if n = 0 then p.oneOrMore else (p.copies n).andThen p.oneOrMore
  | min, some max => if min = max then p.copies min else p.between min max

/-- Adds further branches to a fork; they lead to its end. -/
def addBranches? : List Piece → Size → Option Size
  | [], size => some size
  | p :: ps, size => do
    let (size, e) ← p.build? size
    addBranches? ps (← (← size.grow? 0 (Size.branchBytes 1)).continue? e)

/-- A choice between pieces: a fork into all of them, and an end where they meet,
which come after the second of them. -/
def choice : List Piece → Piece
  | [] => empty
  | [p] => p
  | p :: q :: ps => ⟨fun size => do
    let (size, e) ← p.build? size
    let (size, f) ← q.build? size
    let size ← (← (← size.grow? 2 (Size.branchBytes 2)).continue? e).continue? f
    return (← addBranches? ps size, .plain)⟩

end Piece
end Pattern
end RecordQuery

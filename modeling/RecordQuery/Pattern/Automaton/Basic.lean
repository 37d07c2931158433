/-
# Automata for expressions

An automaton reads a text forward to find where a match ends, and another reads
it backward to find where the match starts.  A pattern is small enough if both
are.
-/

import RecordQuery.Pattern.Automaton.Shared
import RecordQuery.Pattern.Automaton.Words
import RecordQuery.Pattern.Expr

namespace RecordQuery
namespace Pattern

/-- The direction in which an automaton reads a text. -/
inductive Direction where
  | forward
  | backward
  deriving DecidableEq, Repr

/-- Parts in the order in which they are read. -/
def Direction.order {α : Type} (direction : Direction) (parts : List α) : List α :=
  match direction with
  | .forward => parts
  | .backward => parts.reverse

/-- The bytes of some characters in the order in which they are read. -/
def Direction.bytes (direction : Direction) (chars : List Nat) : List Nat :=
  direction.order (chars.flatMap bytesOf)

/-- A class of characters; one of ASCII characters is a single sorting state with
its end. -/
def Piece.ofClass (direction : Direction) (s : CharClass) : Piece :=
  if s.isAscii then .states 2 (Size.rangeBytes s.ranges.length)
  else
    let seqs := s.ranges.flatMap fun (lo, hi) => byteSequences lo hi
    match direction with
    | .forward => .ofSequences seqs
    | .backward => .ofReversedSequences seqs

namespace Expr

/-- The characters of a literal. -/
def chars? : Expr → Option (List Nat)
  | .literal cs => some cs
  | _ => none

mutual

/-- The piece for an expression.  Groups are remembered forward only, by a state
at either end. -/
def piece (direction : Direction) : Expr → Piece
  | .empty => .empty
  | .literal cs => .states (direction.bytes cs).length 0
  | .oneOf s => .ofClass direction s
  | .look _ => .empty
  | .times body min max _ =>
    (body.piece direction).repeated (body.minLength?.any (0 < ·)) min max
  | .remembered _ body =>
    match direction with
    | .forward => (body.piece direction).enclosed
    | .backward => body.piece direction
  | .concat parts => .row (direction.order (pieces direction parts))
  | .either branches =>
    match branches.mapM chars? with
    | some words => .ofWords (words.map direction.bytes)
    | none => .choice (pieces direction branches)

/-- The pieces for several expressions. -/
def pieces (direction : Direction) : List Expr → List Piece
  | [] => []
  | e :: es => e.piece direction :: pieces direction es

end

/-- Whether a match can begin only at the end of the text that is read first. -/
def isAnchored (e : Expr) : Direction → Bool
  | .forward => e.beginsWith .textStart
  | .backward => e.endsWith .textEnd

/-- What comes before an expression: a state, or, unless it is anchored, a loop
that takes any byte. -/
def lead (anchored : Bool) : Piece :=
  if anchored then .empty else (Piece.states 2 (Size.rangeBytes 1)).anyNumber

/-- The whole automaton for an expression: what comes before it, the expression
as a group, and a last state. -/
def automaton (e : Expr) (direction : Direction) : Piece :=
  let body := e.piece direction
  let body := match direction with
    | .forward => body.enclosed
    | .backward => body
  (lead (e.isAnchored direction)).andThen (body.andThen .empty)

/-- Whether the automata for an expression are not too large. -/
def fits (e : Expr) : Bool :=
  ((e.automaton .forward).build? ⟨0, 0⟩).isSome &&
    ((e.automaton .backward).build? ⟨0, 0⟩).isSome

end Expr
end Pattern
end RecordQuery

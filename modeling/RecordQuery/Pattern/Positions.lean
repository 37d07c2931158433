/-
# Sets of positions

An expression is matched against a text by sets of positions.  Position `i` lies
before character `i`; a set of positions is the number whose bit `i` says whether
`i` is in the set.  A course takes the set of positions where a match may start
to the set of positions where it may end, so all matches are followed at once and
a text is searched in one go: it has a match if the set reached from all
positions is not empty.

A course is an expression laid over one text: in place of the characters it
takes and the places it looks at, it has the positions where they are found.
-/

namespace RecordQuery
namespace Pattern

/-- A set of positions, one bit each. -/
abbrev Positions := Nat

namespace Positions

/-- The positions `0` to `n`. -/
def upTo (n : Nat) : Positions := 1 <<< (n + 1) - 1

/-- The positions of the first set that are not in the second. -/
def minus (s t : Positions) : Positions := s ^^^ (s &&& t)

/-- Applies `f` to a set `n` times, or until that changes nothing. -/
def iterate (f : Positions → Positions) : Nat → Positions → Positions
  | 0, s => s
  | n + 1, s => if f s = s then s else iterate f n (f s)

/-- All positions reached from `fresh` by at most `n` rounds of `f`, added to
those already `seen`; each round starts from the new ones only. -/
def reach (f : Positions → Positions) : Nat → Positions → Positions → Positions
  | 0, _, seen => seen
  | n + 1, fresh, seen =>
    let next := minus (f fresh) seen
    if next = 0 then seen else reach f n next (seen ||| next)

end Positions

/-- The ways through one text. -/
inductive Course where
  | stay
  /-- Takes one character at one of these positions. -/
  | step (here : Positions)
  /-- Goes on at these positions only. -/
  | look (here : Positions)
  | concat (first second : Course)
  | either (left right : Course)
  | times (body : Course) (min : Nat) (max : Option Nat)

/-- The positions where a course may end that starts in the set `s`, in a text of
`n` characters. -/
def Course.run (n : Nat) : Course → Positions → Positions
  | .stay, s => s
  | .step here, s => (s &&& here) <<< 1
  | .look here, s => s &&& here
  | .concat first second, s => second.run n (first.run n s)
  | .either left right, s => left.run n s ||| right.run n s
  | .times body min max, s =>
    let s := Positions.iterate (body.run n) min s
    match max with
    | none => Positions.reach (body.run n) (n + 1) s s
    | some m => Positions.reach (body.run n) (m - min) s s

/-- The positions of a text whose next character passes a test. -/
def stepPositions (holds : Nat → Bool) : List Char → Positions
  | [] => 0
  | c :: cs => (if holds c.toNat then 1 else 0) + 2 * stepPositions holds cs

/-- The positions of a text whose neighbours pass a test: the characters before
and after, as far as there are any. -/
def lookPositions (holds : Option Char → Option Char → Bool) (before : Option Char) :
    List Char → Positions
  | [] => if holds before none then 1 else 0
  | c :: cs => (if holds before (some c) then 1 else 0) + 2 * lookPositions holds (some c) cs

end Pattern
end RecordQuery

/-
# A choice between words

Words, given as their bytes, are searched for together: those that start alike
share the states of their start.  Where one word ends and others go on, the order
of the words decides which is preferred, so the others fall into those that come
before the end and those that come after it, and only words of one such portion
share states.
-/

import RecordQuery.Pattern.Automaton.Piece

namespace RecordQuery
namespace Pattern

/-- The portions of words between those that are empty: the last first. -/
def portions (words : List (List Nat)) : List (List (List Nat)) :=
  words.foldl (fun acc word =>
    match word, acc with
    | [], [[], []] => acc
    | [], acc => [] :: acc
    | word, [] => [[word]]
    | word, portion :: acc => (word :: portion) :: acc) [[]]

/-- What is left of the words that start with a byte. -/
def after (b : Nat) (words : List (List Nat)) : List (List Nat) :=
  words.filterMap fun
    | [] => none
    | c :: cs => if c = b then some cs else none

/-- The bytes that words start with. -/
def firstBytes (words : List (List Nat)) : List Nat := (words.filterMap List.head?).eraseDups

/-- The states that some words share, and the bytes that these take beyond 32
each; no word is longer than `fuel`.  Where all words end there is nothing to
add.  Else there is a fork, with a branch for every portion and one for every end,
and each portion is a state that sorts by the next byte. -/
def sharedStates : Nat → List (List Nat) → Nat × Nat
  | 0, _ => (0, 0)
  | fuel + 1, words =>
    if words.all (·.isEmpty) then (0, 0)
    else
      let all := portions words
      let filled := (all.filter (!·.isEmpty)).map List.reverse
      let inner := filled.flatMap fun portion =>
        (firstBytes portion).map fun b => sharedStates fuel (after b portion)
      let sorting := (filled.map fun portion =>
        if (firstBytes portion).length = 1 then 0
        else Size.rangeBytes (firstBytes portion).length).sum
      (1 + filled.length + (inner.map (·.1)).sum,
        Size.branchBytes (filled.length + (all.length - 1)) + sorting + (inner.map (·.2)).sum)

/-- A choice between words. -/
def Piece.ofWords (words : List (List Nat)) : Piece :=
  let (states, extra) := sharedStates ((words.map List.length).foldl max 0 + 1) words
  .states (states + 1) extra

end Pattern
end RecordQuery

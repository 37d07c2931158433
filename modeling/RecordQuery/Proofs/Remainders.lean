/-
# What remains of clauses

A clause is handed on from a node to the nodes of a field without its first segment.  Seen
from above, the clauses that arrive at the nodes found along some names are what remains of
those clauses whose path goes along these names and on (`Clause.under_remainders`).  Of the
key there remains what follows the names and the separators behind them.
-/

import RecordQuery.Proofs.Cascade

namespace RecordQuery

/-- The text of some names in a key, each followed by the separator. -/
def KeyPath.textOf (names : List String) : List Char :=
  names.flatMap fun name => name.toList ++ Segments.separator.toList

/-- What remains of a path after some names, if it goes along them and on. -/
def KeyPath.remainder? (names : List String) (path : KeyPath) : Option KeyPath :=
  if names <+: path.segments then
    match path.segments.drop names.length with
    | [] => none
    | head :: rest =>
      some ⟨String.ofList (path.key.toList.drop (textOf names).length),
        head, rest, path.lookup⟩
  else none

section

variable [PatternEngine]

/-- What remains of a clause after some names. -/
def Clause.remainder? (names : List String) (c : Clause) : Option Clause :=
  (c.path.remainder? names).map fun path => { c with path := path }

/-- What remains of a list of clauses after some names. -/
def Clause.remainders (names : List String) (clauses : List Clause) : List Clause :=
  clauses.filterMap (remainder? names)

end

namespace KeyPath

/-- One name more is followed by one separator more. -/
theorem length_textOf_append (names : List String) (name : String) :
    (textOf (names ++ [name])).length =
      (textOf names).length + (name.length + Segments.separator.length) := by
  rw [textOf, textOf, List.flatMap_append, List.length_append, List.flatMap_singleton,
    List.length_append, String.length_toList, String.length_toList]

/-- After no names the whole path remains. -/
theorem remainder?_nil (path : KeyPath) : path.remainder? [] = some path := by
  obtain ⟨key, head, rest, lookup⟩ := path
  simp [remainder?, segments, textOf]

/-- A path that goes along some names and on has its remainder for the segments
beyond them. -/
theorem remainder?_of_segments_eq {path : KeyPath} {names rest : List String} {head : String}
    (h : path.segments = names ++ head :: rest) : path.remainder? names =
      some ⟨String.ofList (path.key.toList.drop (textOf names).length),
        head, rest, path.lookup⟩ := by
  have hdrop : path.segments.drop names.length = head :: rest := by rw [h, List.drop_left]
  rw [remainder?, if_pos (h ▸ List.prefix_append ..), hdrop]

/-- A path that does not go along some names and on has no remainder after them. -/
theorem remainder?_eq_none {path : KeyPath} {names : List String}
    (h : ∀ head rest, path.segments ≠ names ++ head :: rest) : path.remainder? names = none := by
  rw [remainder?]
  split
  · rename_i hprefix
    obtain ⟨_ | ⟨head, rest⟩, hrest⟩ := hprefix
    · have hdrop : path.segments.drop names.length = [] := by
        rw [← hrest, List.append_nil, List.drop_length]
      rw [hdrop]
    · exact absurd hrest.symm (h head rest)
  · rfl

/-- **One name more takes off one segment more,** if that is its name. -/
theorem remainder?_append (path : KeyPath) (names : List String) (name : String) :
    path.remainder? (names ++ [name]) =
      (path.remainder? names).bind fun path => if path.head = name then path.tail? else none := by
  by_cases h : ∃ head rest, path.segments = names ++ head :: rest
  · obtain ⟨head, rest, h⟩ := h
    rw [remainder?_of_segments_eq h, Option.bind_some]
    by_cases hname : head = name
    · subst hname
      cases rest with
      | nil =>
        rw [if_pos rfl, remainder?_eq_none fun _ _ hlonger => by simp [h] at hlonger]
        rfl
      | cons next rest =>
        have hlonger : path.segments = (names ++ [head]) ++ next :: rest := by simp [h]
        rw [if_pos rfl, remainder?_of_segments_eq hlonger, length_textOf_append]
        simp [tail?, List.drop_drop]
    · rw [if_neg hname, remainder?_eq_none fun _ _ hlonger => by simp [h, hname] at hlonger]
  · have hnone : ∀ head rest, path.segments ≠ names ++ head :: rest := by simpa using h
    rw [remainder?_eq_none hnone, remainder?_eq_none fun next rest hlonger =>
      hnone name (next :: rest) (by rw [hlonger, List.append_assoc, List.singleton_append])]
    rfl

end KeyPath

section

variable [PatternEngine]

namespace Clause

/-- After no names the whole clause remains. -/
theorem remainder?_nil (c : Clause) : c.remainder? [] = some c := by
  rw [remainder?, KeyPath.remainder?_nil]
  rfl

/-- After no names all of the clauses remain. -/
@[simp]
theorem remainders_nil (clauses : List Clause) : remainders [] clauses = clauses := by
  rw [remainders, funext remainder?_nil, List.filterMap_some]

/-- So it does for clauses. -/
theorem remainder?_append (c : Clause) (names : List String) (name : String) :
    c.remainder? (names ++ [name]) =
      (c.remainder? names).bind fun c => if c.head = name then c.descend? else none := by
  rw [remainder?, remainder?, KeyPath.remainder?_append]
  cases c.path.remainder? names with
  | none => rfl
  | some path => by_cases h : path.head = name <;> simp [head, descend?, h]

/-- **What the remainders ask of the nodes of a field is what remains after one name
more.** -/
theorem under_remainders (names : List String) (name : String) (clauses : List Clause) :
    under name (remainders names clauses) = remainders (names ++ [name]) clauses := by
  rw [under, remainders, remainders, List.filterMap_filterMap]
  exact List.filterMap_congr fun c _ => (remainder?_append c names name).symm

end Clause

end

end RecordQuery

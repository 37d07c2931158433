/-
# The paths of a node

A chain of names leads from a node to a field, through nested nodes and through
every member of nested datasets.  The paths of a node are its chains, joined by
the separator, each listed once at its first place.
-/

import RecordQuery.Record.Basic

namespace RecordQuery

/-- The items of a list without those that equal an earlier one, where `seen`
holds the earlier ones. -/
def dropRepeats {α : Type} (same : α → α → Bool) (seen : List α) : List α → List α
  | [] => []
  | a :: as =>
    if seen.any fun b => same b a then dropRepeats same seen as
    else a :: dropRepeats same (seen ++ [a]) as

/-- What is kept stands in its old order. -/
theorem dropRepeats_sublist {α : Type} (same : α → α → Bool) (seen as : List α) :
    (dropRepeats same seen as).Sublist as := by
  induction as generalizing seen with
  | nil => exact .slnil
  | cons a as ih =>
    unfold dropRepeats
    split
    · exact (ih seen).cons a
    · exact (ih (seen ++ [a])).cons_cons a

/-- The first occurrences in a list. -/
def firstOccurrences {α : Type} (same : α → α → Bool) (as : List α) : List α :=
  dropRepeats same [] as

mutual

/-- The chains of names that lead from a node to a field, depth first. -/
def Node.chains : Node → List (List String)
  | .ofFields fields => fieldChains fields

/-- The chains that go on from what a field holds. -/
def Content.chains : Content → List (List String)
  | .scalar _ => []
  | .array _ => []
  | .node n => n.chains
  | .dataset members => memberChains members

/-- The chains that begin with one of these fields. -/
def fieldChains : List (String × Field) → List (List String)
  | [] => []
  | (name, ⟨_, content⟩) :: fields =>
    [name] :: (content.chains.map (name :: ·) ++ fieldChains fields)

/-- The chains of several nodes. -/
def memberChains : List Node → List (List String)
  | [] => []
  | n :: nodes => n.chains ++ memberChains nodes

end

/-- **The paths of a node,** in the order in which they are first met. -/
def Node.paths (n : Node) : List String :=
  firstOccurrences (· == ·) (n.chains.map Segments.join)

end RecordQuery

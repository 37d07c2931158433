/-
# Filtering related nodes

A dotted name such as `books.chapters` leads from the nodes of a dataset to the
nodes of their field `books`, and from those to the nodes of their field
`chapters`.  The nodes that are reached are filtered.
-/

import RecordQuery.Dataset.Select

namespace RecordQuery

/-- The nodes that the nodes of a list hold in the field `segment`, as part of
the dotted name `name`. -/
def relatedNodes (name segment : String) : List Node → Except LookupError (List Node)
  | [] => .ok []
  | n :: nodes => do
    let field ← n.get segment
    if field.isRelated then do
      let rest ← relatedNodes name segment nodes
      return field.related ++ rest
    else throw (.invalidPath name (.notRelated segment))

/-- The nodes that are reached along the segments of a dotted name. -/
def followSegments (name : String) : List String → List Node → Except LookupError (List Node)
  | [], nodes => .ok nodes
  | segment :: segments, nodes => do
    if segment = "" then throw (.invalidPath name .emptyRelatedName)
    let nodes ← relatedNodes name segment nodes
    followSegments name segments nodes

/-- The segments of a dotted name. -/
def dottedSegments (name : String) : List String :=
  (name.toList.splitOn '.').map String.ofList

/-- **The related nodes of which a query holds.** -/
def Dataset.filterRelated [PatternEngine] (registry : Registry) (name : String) (q : Query)
    (d : Dataset) : Except LookupError Dataset := do
  let nodes ← followSegments name (dottedSegments name) d.nodes
  Dataset.filter registry q ⟨nodes, d.cascade⟩

end RecordQuery

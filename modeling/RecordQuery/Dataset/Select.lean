/-
# Filtering and excluding

`filter` keeps the nodes of which a query holds and `exclude` those of which it
does not.  Every clause is evaluated on every node, so a fault anywhere fails the
whole operation, whichever of the two it is.

If the dataset cascades, each node that is kept is narrowed: wherever clauses
lead on into a nested dataset, only its members that the rest of these clauses
selects are kept, and they are narrowed in turn.  Nested nodes are never dropped
and all other fields stay as they are.
-/

import RecordQuery.Dataset.Basic
import RecordQuery.Query.Basic

namespace RecordQuery

/-- Which nodes an operation keeps. -/
inductive Selection where
  | matching
  | others
  deriving DecidableEq, Repr

namespace Selection

/-- Whether a node is kept, given whether the query holds of it. -/
def keeps : Selection → Bool → Bool
  | .matching, holds => holds
  | .others, holds => !holds

end Selection

variable [PatternEngine]

mutual

/-- A node with the datasets narrowed that the clauses lead into.  If none of them goes on
below the fields of the node, it stays as it is. -/
def Node.narrow (selection : Selection) (clauses : List Clause) :
    Node → Except LookupError Node
  | .ofFields fields =>
    if clauses.any fun clause => clause.descend?.isSome then do
      let fields ← narrowFields selection clauses fields
      return .ofFields fields
    else .ok (.ofFields fields)
termination_by structural n => n

/-- The fields of a node with the datasets narrowed that the clauses lead into.  The
clauses are told apart by the names that the fields bear, and each field comes to stand
under that name. -/
def narrowFields (selection : Selection) (clauses : List Clause) :
    List (String × Field) → Except LookupError (List (String × Field))
  | [] => .ok []
  | (_, ⟨name, content⟩) :: fields => do
    let content ← content.narrow selection (Clause.under name clauses)
    let fields ← narrowFields selection clauses fields
    return (name, ⟨name, content⟩) :: fields
termination_by structural fields => fields

/-- What a field holds, narrowed by what the clauses ask of its nodes. -/
def Content.narrow (selection : Selection) (clauses : List Clause) (content : Content) :
    Except LookupError Content :=
  match content with
  | .scalar s => .ok (.scalar s)
  | .array items => .ok (.array items)
  | .node n => if clauses.isEmpty then .ok (.node n) else do
    let n ← n.narrow selection clauses
    return .node n
  | .dataset members => if clauses.isEmpty then .ok (.dataset members) else do
    let members ← narrowMembers selection clauses members
    return .dataset members
termination_by structural content

/-- The members of a dataset that the clauses select, narrowed in turn. -/
def narrowMembers (selection : Selection) (clauses : List Clause) :
    List Node → Except LookupError (List Node)
  | [] => .ok []
  | n :: nodes => do
    let holds ← Clause.allHold n clauses
    if selection.keeps holds then do
      let n ← n.narrow selection clauses
      let nodes ← narrowMembers selection clauses nodes
      return n :: nodes
    else narrowMembers selection clauses nodes
termination_by structural nodes => nodes

end

/-- The nodes that the clauses select, as they are. -/
def selectNodes (selection : Selection) (clauses : List Clause) :
    List Node → Except LookupError (List Node)
  | [] => .ok []
  | n :: nodes => do
    let holds ← Clause.allHold n clauses
    let nodes ← selectNodes selection clauses nodes
    return if selection.keeps holds then n :: nodes else nodes

namespace Dataset

/-- The nodes that the clauses select; without clauses, all nodes. -/
def select (selection : Selection) (clauses : List Clause) (d : Dataset) :
    Except LookupError Dataset :=
  if clauses.isEmpty then .ok (ofNodes d.nodes)
  else if d.cascade then (narrowMembers selection clauses d.nodes).map ofNodes
  else (selectNodes selection clauses d.nodes).map ofNodes

/-- **The nodes of which a query holds.** -/
def filter (registry : Registry) (q : Query) (d : Dataset) : Except LookupError Dataset := do
  d.select .matching (← q.compile registry)

/-- **The nodes of which a query does not hold.** -/
def exclude (registry : Registry) (q : Query) (d : Dataset) : Except LookupError Dataset := do
  d.select .others (← q.compile registry)

end Dataset
end RecordQuery

/-
# Queries

A query is a conjunction of predicates: operands under keys, in the order in
which the keys were first given.  A key that is given again gets the new operand
in its old place.  Alternatives and negation are not part of a query but
operations on datasets.
-/

import RecordQuery.Query.Clause

namespace RecordQuery

/-- Operands under keys. -/
structure Query where
  predicates : Entries Operand

namespace Query

/-- The query without predicates. -/
def empty : Query := ⟨[]⟩

/-- A query with one predicate more. -/
def and (q : Query) (key : String) (operand : Operand) : Query :=
  ⟨q.predicates.put key operand⟩

/-- The query of predicates added one after the other. -/
def ofList (predicates : List (String × Operand)) : Query :=
  predicates.foldl (fun q p => q.and p.1 p.2) empty

/-- The operand of a key. -/
def get? (q : Query) (key : String) : Option Operand := q.predicates.get? key

variable [PatternEngine]

/-- The clauses of predicates, in order; the first fault is reported. -/
def compileEntries (registry : Registry) : Entries Operand → Except LookupError (List Clause)
  | [] => .ok []
  | (key, operand) :: predicates => do
    let clause ← Clause.parse registry key operand
    let clauses ← compileEntries registry predicates
    return clause :: clauses

/-- The clauses of a query. -/
def compile (registry : Registry) (q : Query) : Except LookupError (List Clause) :=
  compileEntries registry q.predicates

/-- **Whether a query holds of a node.** -/
def holds (registry : Registry) (q : Query) (n : Node) : Except LookupError Bool := do
  Clause.allHold n (← q.compile registry)

end Query

/-- The node itself if a query holds of it. -/
def Node.filter [PatternEngine] (registry : Registry) (q : Query) (n : Node) :
    Except LookupError Node := do
  if ← q.holds registry n then return n else throw .objectNotFound

end RecordQuery

/-
# Clauses

A clause is a parsed key with its operand and the pattern prepared from it, so
that a pattern is compiled once for all nodes.
-/

import RecordQuery.Query.KeyPath

namespace RecordQuery

variable [PatternEngine]

/-- A predicate that is ready to be evaluated. -/
structure Clause where
  path : KeyPath
  operand : Operand
  pattern : Option Pattern

namespace Clause

/-- The clause of a key and an operand. -/
def parse (registry : Registry) (key : String) (operand : Operand) :
    Except LookupError Clause := do
  let path ← KeyPath.parse registry key
  return ⟨path, operand, ← path.lookup.prepare operand⟩

/-- **Whether a clause holds of a node.** -/
def holds (clause : Clause) (n : Node) : Except LookupError Bool :=
  clause.path.resolveWith clause.pattern clause.operand n

/-- The field that a clause looks at first. -/
def head (clause : Clause) : String := clause.path.head

/-- The clause as it stands for the nodes of its first field, if its path goes on
there. -/
def descend? (clause : Clause) : Option Clause :=
  clause.path.tail?.map fun path => { clause with path := path }

/-- What a list of clauses asks of the nodes of a field. -/
def under (name : String) (clauses : List Clause) : List Clause :=
  clauses.filterMap fun clause => if clause.head = name then clause.descend? else none

/-- Whether all clauses hold of a node.  Every clause is evaluated, in order, and
the first failure is the result. -/
def allHold (n : Node) : List Clause → Except LookupError Bool
  | [] => .ok true
  | clause :: clauses => do
    let first ← clause.holds n
    let rest ← allHold n clauses
    return first && rest

end Clause
end RecordQuery

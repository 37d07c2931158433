/-
# Keys: where to look and what to ask

A key such as `books__published__gt` names a path through the record and ends,
if its last segment is registered, with a lookup; without one the lookup
registered as `exact` is applied.  A path crosses nested nodes, and where it
crosses a dataset the rest of it is followed from every member.  The key holds if
the lookup holds at some place reached; but every place is visited, so a fault at
one of them is always reported.
-/

import RecordQuery.Lookup.Registry
import RecordQuery.Record.Basic

namespace RecordQuery

/-- A parsed key: at least one segment, and the lookup at their end. -/
structure KeyPath where
  key : String
  head : String
  rest : List String
  lookup : Lookup

namespace KeyPath

/-- The names on the path. -/
def segments (path : KeyPath) : List String := path.head :: path.rest

/-- The segments of a key and the lookup that its last one names.  A last segment
that is not registered is part of the path. -/
def lookupOf (registry : Registry) (pieces : List String) : List String × Lookup :=
  match pieces.getLast?.bind registry.get? with
  | some lookup => (pieces.dropLast, lookup)
  | none => (pieces, registry.default)

/-- **Parses a key.** -/
def parse (registry : Registry) (key : String) : Except LookupError KeyPath :=
  if key = "" then .error (.invalidPath key .emptyKey)
  else
    let (segments, lookup) := lookupOf registry (Segments.split key)
    match segments with
    | [] => .error (.invalidPath key .noField)
    | head :: rest =>
      if segments.any (· = "") then .error (.invalidPath key .emptySegment)
      else .ok ⟨key, head, rest, lookup⟩

/-- The path without its first segment.  What remains of the key begins after
that segment and the separator. -/
def tail? (path : KeyPath) : Option KeyPath :=
  match path.rest with
  | [] => none
  | next :: rest =>
    some ⟨String.ofList (path.key.toList.drop
      (path.head.length + Segments.separator.length)), next, rest, path.lookup⟩

/-- Whether a test holds of some member of a list.  Every member is tested, in
order, and the first failure is the result. -/
def anyMember {α : Type} (test : α → Except LookupError Bool) :
    List α → Except LookupError Bool
  | [] => .ok false
  | a :: as => do
    let first ← test a
    let rest ← anyMember test as
    return first || rest

variable [PatternEngine]

/-- Applies the lookup where the path ends.  An empty dataset is also an empty
array, for lookups that accept arrays. -/
def arrive (path : KeyPath) (pattern : Option Pattern) (operand : Operand) :
    Content → Except LookupError Bool
  | .scalar s => path.lookup.applyWith pattern (.scalar s) operand
  | .array items => path.lookup.applyWith pattern (.array items) operand
  | .node _ => .error (path.lookup.unsupported .node)
  | .dataset [] =>
    if path.lookup.accepts.allows .array then path.lookup.applyWith pattern (.array []) operand
    else .error (path.lookup.unsupported .dataset)
  | .dataset (_ :: _) => .error (path.lookup.unsupported .dataset)

/-- Follows the path from a node, given the segments that are left. -/
def follow (path : KeyPath) (pattern : Option Pattern) (operand : Operand) (name : String) :
    List String → Node → Except LookupError Bool
  | [], n => do path.arrive pattern operand (← n.get name)
  | next :: rest, n => do
    match (← n.get name).content with
    | .scalar _ => .error (.invalidPath path.key (.valueField name next))
    | .array _ => .error (.invalidPath path.key (.valueField name next))
    | .node child => path.follow pattern operand next rest child
    | .dataset members => anyMember (path.follow pattern operand next rest) members

/-- Resolves a path from a node with the pattern that was prepared for it. -/
def resolveWith (path : KeyPath) (pattern : Option Pattern) (operand : Operand) (n : Node) :
    Except LookupError Bool :=
  path.follow pattern operand path.head path.rest n

/-- **Whether a key with an operand holds of a node.** -/
def resolve (path : KeyPath) (operand : Operand) (n : Node) : Except LookupError Bool := do
  path.resolveWith (← path.lookup.prepare operand) operand n

end KeyPath
end RecordQuery

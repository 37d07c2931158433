/-
# Registries

A registry holds lookups under the names that end a key.  It starts with the
built-in lookups.  Registering a predicate under a name that is taken, a
built-in one included, replaces the lookup and keeps its place in the list.
-/

import RecordQuery.Entries
import RecordQuery.Lookup.Basic

namespace RecordQuery

/-- Lookups under their names. -/
structure Registry where
  entries : Entries Lookup

namespace Registry

/-- The registry of the built-in lookups. -/
def builtin : Registry := ⟨Op.all.map fun op => (op.name, .builtin op)⟩

/-- Registers a predicate. -/
def register (registry : Registry) (name : String) (accepts : Accepts)
    (predicate : Value → Operand → Bool) : Registry :=
  ⟨registry.entries.put name (.custom name accepts predicate)⟩

/-- The lookup of a name. -/
def get? (registry : Registry) (name : String) : Option Lookup := registry.entries.get? name

/-- Whether a name has a lookup. -/
def contains (registry : Registry) (name : String) : Bool := (registry.get? name).isSome

/-- The names, in order of their first registration. -/
def names (registry : Registry) : List String := registry.entries.names

/-- The lookup of a key that names none: the one registered as `exact`. -/
def default (registry : Registry) : Lookup :=
  (registry.get? (Op.exact .sensitive).name).getD (.builtin (.exact .sensitive))

end Registry
end RecordQuery

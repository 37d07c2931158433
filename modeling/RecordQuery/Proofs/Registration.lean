/-
# Registering lookups

A registry is the built-in one with predicates registered in some order.  Registering
touches one name only (`Registry.get?_register`), and what stands under a name bears
that name (`Registry.Named`), so an error or an inspected key shows the name that the
key was written with.  No lookup is ever removed; in particular there always is a
lookup for keys that name none (`Registry.get?_exact`).
-/

import RecordQuery.Proofs.DistinctNames

namespace RecordQuery

/-- A predicate to be registered under a name. -/
structure Registration where
  name : String
  accepts : Accepts
  predicate : Value → Operand → Bool

namespace Registry

/-- The registry after some registrations, in order. -/
def registerAll (registry : Registry) (registrations : List Registration) : Registry :=
  registrations.foldl (fun registry r => registry.register r.name r.accepts r.predicate) registry

/-- What stands under a name bears it. -/
def Named (registry : Registry) : Prop :=
  ∀ name lookup, registry.get? name = some lookup → lookup.name = name

variable {registry : Registry}

/-- **Registering touches one name only.** -/
theorem get?_register (registry : Registry) (name other : String) (accepts : Accepts)
    (predicate : Value → Operand → Bool) :
    (registry.register name accepts predicate).get? other =
      if other = name then some (.custom name accepts predicate) else registry.get? other := by
  split
  · rename_i h
    subst h
    exact Entries.get?_put_self ..
  · rename_i h
    exact Entries.get?_put_of_ne h ..

/-- The built-in lookups stand under their own names. -/
theorem named_builtin : builtin.Named := by
  intro name lookup h
  obtain ⟨op, -, hop⟩ := List.mem_map.1 (Entries.mem_of_get? h)
  obtain ⟨rfl, rfl⟩ := Prod.mk.inj hop
  rfl

/-- A predicate bears the name that it is registered under. -/
theorem Named.register (h : registry.Named) (name : String) (accepts : Accepts)
    (predicate : Value → Operand → Bool) : (registry.register name accepts predicate).Named := by
  intro other lookup hget
  rw [get?_register] at hget
  split at hget
  · rename_i hname
    exact Option.some.inj hget ▸ hname.symm
  · exact h other lookup hget

/-- **After any registrations, what stands under a name bears it.** -/
theorem Named.registerAll (h : registry.Named) (registrations : List Registration) :
    (registry.registerAll registrations).Named := by
  induction registrations generalizing registry with
  | nil => exact h
  | cons r registrations ih => exact ih (h.register r.name r.accepts r.predicate)

/-- Registering removes no name. -/
theorem contains_register {name : String} (h : registry.contains name) (other : String)
    (accepts : Accepts) (predicate : Value → Operand → Bool) :
    (registry.register other accepts predicate).contains name := by
  rw [contains, get?_register]
  split
  · rfl
  · exact h

/-- **No registration removes a name.** -/
theorem contains_registerAll {name : String} (h : registry.contains name)
    (registrations : List Registration) : (registry.registerAll registrations).contains name := by
  induction registrations generalizing registry with
  | nil => exact h
  | cons r registrations ih => exact ih (contains_register h r.name r.accepts r.predicate)

/-- The lookup of keys that name none is the one registered for equality, which is always
there. -/
theorem get?_exact (registrations : List Registration) :
    (builtin.registerAll registrations).get? (Op.exact .sensitive).name =
      some (builtin.registerAll registrations).default := by
  have hcontains : (builtin.registerAll registrations).contains (Op.exact .sensitive).name :=
    contains_registerAll rfl registrations
  obtain ⟨lookup, h⟩ := Option.isSome_iff_exists.1 hcontains
  rw [default, h]
  rfl

end Registry
end RecordQuery

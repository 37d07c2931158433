/-
# Entries: values under names, in insertion order

Records, queries and registries all hold values under names and show them in
the order in which the names first appeared.  Putting a value under a name that
is already there replaces the value and keeps its place.
-/

namespace RecordQuery

/-- Values under names, in insertion order. -/
abbrev Entries (α : Type) := List (String × α)

namespace Entries

variable {α : Type}

/-- The value under a name: that of its first entry. -/
def get? (name : String) : Entries α → Option α
  | [] => none
  | (n, a) :: rest => if n = name then some a else get? name rest

/-- Puts a value under a name, in place if the name is there and at the end if
not. -/
def put (name : String) (a : α) : Entries α → Entries α
  | [] => [(name, a)]
  | (n, b) :: rest => if n = name then (n, a) :: rest else (n, b) :: put name a rest

/-- The names, in order. -/
def names (entries : Entries α) : List String := entries.map (·.1)

/-- What is put under a name is under it. -/
theorem get?_put_self (name : String) (a : α) (entries : Entries α) :
    get? name (put name a entries) = some a := by
  induction entries with
  | nil => simp [put, get?]
  | cons e rest ih =>
    obtain ⟨n, b⟩ := e
    by_cases h : n = name <;> simp [put, get?, h, ih]

/-- Putting under one name leaves the other names alone. -/
theorem get?_put_of_ne {name other : String} (h : other ≠ name) (a : α) (entries : Entries α) :
    get? other (put name a entries) = get? other entries := by
  induction entries with
  | nil => simp [put, get?, h.symm]
  | cons e rest ih =>
    obtain ⟨n, b⟩ := e
    by_cases hn : n = name
    · subst hn; simp [put, get?, h.symm]
    · by_cases ho : n = other
      · subst ho; simp [put, get?, hn]
      · simp [put, get?, hn, ho, ih]

/-- The first of two lists of entries is looked at first. -/
theorem get?_append (name : String) (entries entries' : Entries α) :
    get? name (entries ++ entries') = (entries.get? name).or (entries'.get? name) := by
  induction entries with
  | nil => rfl
  | cons entry entries ih =>
    rw [List.cons_append, get?, get?]
    split
    · rfl
    · exact ih

/-- There is a value under a name just if it is one of the names. -/
theorem isSome_get?_iff (name : String) (entries : Entries α) :
    (get? name entries).isSome ↔ name ∈ entries.names := by
  induction entries with
  | nil => simp [get?, names]
  | cons e rest ih =>
    obtain ⟨n, b⟩ := e
    by_cases h : n = name
    · simp [get?, names, h]
    · simp only [get?, h, if_false, names, List.map_cons, List.mem_cons]
      rw [ih]
      simp [names, Ne.symm h]

/-- **Putting keeps the order of the names** and adds a new one at the end. -/
theorem names_put (name : String) (a : α) (entries : Entries α) :
    (put name a entries).names =
      if name ∈ entries.names then entries.names else entries.names ++ [name] := by
  induction entries with
  | nil => simp [put, names]
  | cons e rest ih =>
    obtain ⟨n, b⟩ := e
    by_cases h : n = name
    · simp [put, names, h]
    · have hne : name ≠ n := Ne.symm h
      simp only [names] at ih
      by_cases hm : name ∈ rest.map (·.1) <;> simp [put, names, h, hne, hm, ih]

end Entries
end RecordQuery

/-
# A clause below its first field

A clause whose path goes on beyond its first field is evaluated on a node by evaluating
what remains of it on the nodes of that field, in order (`Clause.holds_eq_mapError`).  The
path that remains has a shorter key, which decides nothing.  Lookups do not know of keys,
and where a path is at fault itself, the key is all of the fault that depends on it
(`KeyPath.follow_eq_mapError`).

So if a clause can be evaluated on a node, what remains of it can be evaluated on
all nodes of its first field (`Clause.isOk_holds_of_mem_under`).
-/

import RecordQuery.Proofs.AcceptedShapes
import RecordQuery.Proofs.Places

namespace RecordQuery

/-! ### Faults that show another key -/

/-- A fault as a path with this key reports it.  Only an invalid path shows its key. -/
def LookupError.withKey (key : String) : LookupError → LookupError
  | .invalidPath _ cause => .invalidPath key cause
  | e => e

section

variable {α ε : Type} {f : ε → ε} {r : Except ε α} {e : ε}

/-- A step succeeds as it did when its faults are shown otherwise. -/
theorem mapError_eq_ok_iff {a : α} : r.mapError f = .ok a ↔ r = .ok a := by
  cases r <;> simp [Except.mapError]

/-- A step fails when its faults are shown otherwise if it failed before. -/
theorem mapError_eq_error_iff : r.mapError f = .error e ↔ ∃ e', r = .error e' ∧ e = f e' := by
  cases r <;> simp [Except.mapError, eq_comm]

/-- A step whose faults are shown as they were is the same step. -/
theorem mapError_eq_self (h : ∀ e, r = .error e → f e = e) : r.mapError f = r := by
  cases r with
  | error e => exact congrArg Except.error (h e rfl)
  | ok a => rfl

end

/-- The fault of a lookup shows no key. -/
theorem Op.Fault.withKey_eq {op : Op} {e : LookupError} (h : op.Fault e) (key : String) :
    e.withKey key = e := by
  cases h <;> rfl

/-- **A lookup reports no key.** -/
theorem Lookup.mapError_applyWith [PatternEngine] (lookup : Lookup) (pattern : Option Pattern)
    (v : Value) (operand : Operand) (key : String) :
    (lookup.applyWith pattern v operand).mapError (.withKey key) =
      lookup.applyWith pattern v operand := by
  by_cases h : lookup.accepts.allows v.shape
  · cases lookup with
    | custom name accepts predicate =>
      have hholds : (custom name accepts predicate).applyWith pattern v operand =
          .ok (predicate v operand) := if_pos h
      rw [hholds]
      rfl
    | builtin op =>
      have heval : (builtin op).applyWith pattern v operand = op.evalWith pattern v operand :=
        if_pos h
      rw [heval]
      exact mapError_eq_self fun e he =>
        (Op.failsOwn_evalWith h pattern operand e he).withKey_eq key
  · have hrefuses : lookup.applyWith pattern v operand = .error (lookup.unsupported v.shape) :=
      if_neg h
    rw [hrefuses]
    rfl

/-- Of two paths with the same lookup, one finds out at a place what the other does. -/
theorem Place.outcome_eq_mapError {path path' : KeyPath} (h : path.lookup = path'.lookup)
    {test : Value → Except LookupError Bool}
    (htest : ∀ v, (test v).mapError (.withKey path.key) = test v) (place : Place) :
    place.outcome path test = (place.outcome path' test).mapError (.withKey path.key) := by
  cases place with
  | missing name available => rfl
  | pastValue name next => rfl
  | value v => exact (htest v).symm
  | node | dataset =>
    rw [outcome, outcome, h]
    rfl
  | emptyDataset =>
    rw [outcome, outcome, h]
    split
    · exact (htest _).symm
    · rfl

namespace KeyPath

/-- Showing the faults of a test otherwise is showing the fault of fanning out otherwise. -/
theorem anyMember_mapError {α : Type} (f : LookupError → LookupError)
    (test : α → Except LookupError Bool) (as : List α) :
    anyMember (fun a => (test a).mapError f) as = (anyMember test as).mapError f := by
  induction as with
  | nil => rfl
  | cons a as ih =>
    rw [anyMember, anyMember, ih]
    cases test a <;> cases anyMember test as <;> rfl

/-- **What a path finds out does not depend on its key,** except for the key in a fault. -/
theorem follow_eq_mapError [PatternEngine] {path path' : KeyPath} (h : path.lookup = path'.lookup)
    (pattern : Option Pattern) (operand : Operand) (name : String) (rest : List String)
    (n : Node) : path.follow pattern operand name rest n =
      (path'.follow pattern operand name rest n).mapError (.withKey path.key) := by
  rw [follow_eq_anyMember, follow_eq_anyMember, h, ← anyMember_mapError]
  refine congrArg (anyMember · _) (funext fun place => ?_)
  exact Place.outcome_eq_mapError h
    (fun v => path'.lookup.mapError_applyWith pattern v operand path.key) place

/-- The path without its first segment has the rest of the segments, and the same lookup. -/
theorem tail?_eq_some {path tail : KeyPath} (h : path.tail? = some tail) :
    path.rest = tail.segments ∧ tail.lookup = path.lookup := by
  obtain ⟨key, head, _ | ⟨next, rest⟩, lookup⟩ := path
  · simp [tail?] at h
  · cases h
    exact ⟨rfl, rfl⟩

end KeyPath

namespace Clause

variable [PatternEngine] {c c' : Clause} {n child : Node} {field : Field}

/-- **What a clause is read as:** the path of its key, and the pattern that the lookup of the
path takes from the operand. -/
theorem parse_eq_ok_iff {registry : Registry} {key : String} {operand : Operand} :
    parse registry key operand = .ok c ↔ KeyPath.parse registry key = .ok c.path ∧
      c.path.lookup.prepare operand = .ok c.pattern ∧ c.operand = operand := by
  obtain ⟨path, operand', pattern⟩ := c
  rw [parse, bind_eq_ok_iff]
  constructor
  · rintro ⟨path', hpath, h⟩
    obtain ⟨pattern', hpattern, h⟩ := bind_eq_ok_iff.1 h
    cases h
    exact ⟨hpath, hpattern, rfl⟩
  · rintro ⟨hpath, hpattern, rfl⟩
    exact ⟨path, hpath, bind_eq_ok_iff.2 ⟨pattern, hpattern, rfl⟩⟩

/-- What remains of a clause has the rest of its segments, and the same lookup,
operand and pattern. -/
theorem descend?_eq_some (h : c.descend? = some c') :
    c.path.rest = c'.path.segments ∧ c'.path.lookup = c.path.lookup ∧
      c'.operand = c.operand ∧ c'.pattern = c.pattern := by
  obtain ⟨tail, htail, rfl⟩ := Option.map_eq_some_iff.1 h
  obtain ⟨hrest, hlookup⟩ := KeyPath.tail?_eq_some htail
  exact ⟨hrest, hlookup, rfl, rfl⟩

/-- **A clause is evaluated on a node by evaluating what remains of it** on the nodes of its
first field.  A fault shows the key of the clause. -/
theorem holds_eq_mapError (h : c.descend? = some c') (hget : n.get? c.head = some field)
    (hr : field.isRelated) : c.holds n =
      (KeyPath.anyMember c'.holds field.related).mapError (.withKey c.path.key) := by
  obtain ⟨hrest, hlookup, hoperand, hpattern⟩ := descend?_eq_some h
  have hfollow : c.holds n = KeyPath.anyMember
      (c.path.follow c.pattern c.operand c'.path.head c'.path.rest) field.related := by
    rw [holds, KeyPath.resolveWith, hrest]
    exact KeyPath.follow_cons hget hr
  have hbelow : c.path.follow c.pattern c.operand c'.path.head c'.path.rest =
      fun child => (c'.holds child).mapError (.withKey c.path.key) := by
    funext child
    rw [holds, KeyPath.resolveWith, hoperand, hpattern]
    exact KeyPath.follow_eq_mapError hlookup.symm ..
  rw [hfollow, hbelow, KeyPath.anyMember_mapError]

/-- A clause finds out on a node what the rest of it finds out on the nodes of its first field. -/
theorem holds_eq_ok_iff (h : c.descend? = some c') (hget : n.get? c.head = some field)
    (hr : field.isRelated) {b : Bool} :
    c.holds n = .ok b ↔ KeyPath.anyMember c'.holds field.related = .ok b := by
  rw [holds_eq_mapError h hget hr, mapError_eq_ok_iff]

/-- What clauses ask of the nodes of a field is what remains of those that begin with it. -/
theorem mem_under {name : String} {clauses : List Clause} :
    c' ∈ under name clauses ↔ ∃ c ∈ clauses, c.head = name ∧ c.descend? = some c' := by
  simp [under]

/-- **If a clause can be evaluated on a node, what remains of it can be evaluated on
the nodes of its first field.** -/
theorem isOk_holds_of_mem_under {name : String} {clauses : List Clause}
    (hok : ∀ c ∈ clauses, (c.holds n).isOk) (hget : n.get? name = some field)
    (hchild : child ∈ field.related) (hc' : c' ∈ under name clauses) :
    (c'.holds child).isOk := by
  obtain ⟨c, hc, rfl, h⟩ := mem_under.1 hc'
  obtain ⟨b, hb⟩ := isOk_iff.1 (hok c hc)
  have hany := (holds_eq_ok_iff h hget (Field.isRelated_of_mem hchild)).1 hb
  exact (KeyPath.anyMember_eq_ok_iff.1 hany).1 child hchild

end Clause
end RecordQuery

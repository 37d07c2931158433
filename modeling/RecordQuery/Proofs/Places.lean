/-
# The places that a path leads to

A path is followed into nested nodes and into every member of nested datasets,
so from one node it leads to many places, listed here depth first
(`KeyPath.places`).  At a place there is a value, or the path is at fault: a field
is missing, the path goes on from a value or ends on nodes.

Resolving a key is one scan of these places (`KeyPath.follow_eq_anyMember`).  It
fails as the first place at fault does, and otherwise holds if the lookup holds
at one of them.  An empty dataset at the end of a path is an empty array to the
lookups that accept arrays.
-/

import Mathlib.Data.List.Flatten
import RecordQuery.Proofs.FirstFault

namespace RecordQuery

/-- What a path finds where it ends or can not go on. -/
inductive Place where
  /-- A node that lacks the field which the path names next. -/
  | missing (name : String) (available : List String)
  /-- A value from which the path goes on. -/
  | pastValue (name next : String)
  /-- A nested node. -/
  | node
  /-- A dataset with members. -/
  | dataset
  /-- A dataset without members. -/
  | emptyDataset
  /-- A value. -/
  | value (v : Value)

namespace Place

/-- The place of a path that ends on a field. -/
def ofContent : Content → Place
  | .scalar s => .value (.scalar s)
  | .array items => .value (.array items)
  | .node _ => .node
  | .dataset [] => .emptyDataset
  | .dataset (_ :: _) => .dataset

/-- The value that a lookup is applied to at a place. -/
def value? : Place → Option Value
  | .value v => some v
  | .emptyDataset => some (.array [])
  | _ => none

/-- What a path finds out at a place, given what its lookup says of values. -/
def outcome (path : KeyPath) (test : Value → Except LookupError Bool) :
    Place → Except LookupError Bool
  | .missing name available => .error (.unknownField name available)
  | .pastValue name next => .error (.invalidPath path.key (.valueField name next))
  | .node => .error (path.lookup.unsupported .node)
  | .dataset => .error (path.lookup.unsupported .dataset)
  | .emptyDataset =>
    if path.lookup.accepts.allows .array then test (.array [])
    else .error (path.lookup.unsupported .dataset)
  | .value v => test v

/-- A place where the path finds something out has a value, and the lookup says it
of that value. -/
theorem outcome_eq_ok {path : KeyPath} {test : Value → Except LookupError Bool} {place : Place}
    {b : Bool} (h : place.outcome path test = .ok b) :
    ∃ v, place.value? = some v ∧ test v = .ok b := by
  cases place with
  | value v => exact ⟨v, rfl, h⟩
  | emptyDataset =>
    rw [outcome] at h
    split at h
    · exact ⟨.array [], rfl, h⟩
    · simp at h
  | _ => simp [outcome] at h

end Place

namespace KeyPath

/-- The places that segments lead to from a node, depth first. -/
def placesFrom (name : String) : List String → Node → List Place
  | [], n =>
    match n.get? name with
    | none => [.missing name n.names]
    | some field => [.ofContent field]
  | next :: rest, n =>
    match n.get? name with
    | none => [.missing name n.names]
    | some field =>
      if field.isRelated then field.related.flatMap (placesFrom next rest)
      else [.pastValue name next]

/-- The places that a path leads to from a node, depth first. -/
def places (path : KeyPath) (n : Node) : List Place := placesFrom path.head path.rest n

section Step

variable {name next : String} {rest : List String} {n : Node} {field : Field}

/-- A node that lacks the field is the only place. -/
theorem placesFrom_missing (h : n.get? name = none) (rest : List String) :
    placesFrom name rest n = [.missing name n.names] := by
  cases rest <;> rw [placesFrom, h]

/-- Where the segments end, what the field holds is the only place. -/
theorem placesFrom_nil (h : n.get? name = some field) :
    placesFrom name [] n = [.ofContent field] := by
  rw [placesFrom, h]

/-- From related nodes the places of each of them follow, in order. -/
theorem placesFrom_cons (h : n.get? name = some field) (hr : field.isRelated) :
    placesFrom name (next :: rest) n = field.related.flatMap (placesFrom next rest) := by
  rw [placesFrom, h]
  exact if_pos hr

/-- A value from which the segments go on is the only place. -/
theorem placesFrom_cons_value (h : n.get? name = some field) (hr : ¬field.isRelated) :
    placesFrom name (next :: rest) n = [.pastValue name next] := by
  rw [placesFrom, h]
  exact if_neg hr

end Step

/-- A test of one member is the test of that member. -/
theorem anyMember_singleton {α : Type} (test : α → Except LookupError Bool) (a : α) :
    anyMember test [a] = test a := by
  cases h : test a <;> simp [anyMember, h, bind, Except.bind, pure, Except.pure]

/-- Members are tested in order, and none is skipped. -/
theorem anyMember_append {α : Type} (test : α → Except LookupError Bool) (as bs : List α) :
    anyMember test (as ++ bs) = (do
      let first ← anyMember test as
      let rest ← anyMember test bs
      return first || rest) := by
  induction as with
  | nil => cases h : anyMember test bs <;> simp [anyMember, h, bind, Except.bind, pure, Except.pure]
  | cons a as ih =>
    rw [List.cons_append, anyMember, anyMember, ih]
    cases test a <;> cases anyMember test as <;> cases anyMember test bs <;>
      simp [bind, Except.bind, pure, Except.pure, Bool.or_assoc]

/-- Testing the members of several lists is testing list by list. -/
theorem anyMember_flatMap {α β : Type} (test : β → Except LookupError Bool) (f : α → List β)
    (as : List α) :
    anyMember test (as.flatMap f) = anyMember (fun a => anyMember test (f a)) as := by
  induction as with
  | nil => rfl
  | cons a as ih => rw [List.flatMap_cons, anyMember_append, anyMember, ih]

variable [PatternEngine]

/-- A path that goes on from related nodes is followed from each of them. -/
theorem follow_cons {path : KeyPath} {pattern : Option Pattern} {operand : Operand}
    {name next : String} {rest : List String} {n : Node} {field : Field}
    (h : n.get? name = some field) (hr : field.isRelated) :
    path.follow pattern operand name (next :: rest) n =
      anyMember (path.follow pattern operand next rest) field.related := by
  rw [follow, Node.get, h]
  obtain ⟨_, content⟩ := field
  cases content with
  | scalar s => exact absurd hr Bool.false_ne_true
  | array items => exact absurd hr Bool.false_ne_true
  | node child => exact (anyMember_singleton _ _).symm
  | dataset members => rfl

/-- **Following a path is one scan of the places that it leads to.**  The induction is on the
segments that are left, for any node. -/
theorem follow_eq_anyMember (path : KeyPath) (pattern : Option Pattern) (operand : Operand)
    (name : String) (rest : List String) (n : Node) :
    path.follow pattern operand name rest n =
      anyMember (Place.outcome path (path.lookup.applyWith pattern · operand))
        (placesFrom name rest n) := by
  induction rest generalizing name n with
  | nil =>
    cases h : n.get? name with
    | none => rw [follow, Node.get, h, placesFrom_missing h, anyMember_singleton]; rfl
    | some field =>
      rw [follow, Node.get, h, placesFrom_nil h, anyMember_singleton]
      obtain ⟨_, s | items | child | (_ | ⟨m, members⟩)⟩ := field <;> rfl
  | cons next rest ih =>
    cases h : n.get? name with
    | none => rw [follow, Node.get, h, placesFrom_missing h, anyMember_singleton]; rfl
    | some field =>
      by_cases hr : field.isRelated
      · rw [follow_cons h hr, placesFrom_cons h hr, anyMember_flatMap, ← funext (ih next)]
      · rw [follow, Node.get, h, placesFrom_cons_value h hr, anyMember_singleton]
        obtain ⟨_, content⟩ := field
        cases content with
        | scalar s => rfl
        | array items => rfl
        | node child => exact absurd rfl hr
        | dataset members => exact absurd rfl hr

end KeyPath
end RecordQuery

/-
# No query sees more than the meaning

A key leads from a node to the field under a name, wherever that field stands, and a
built-in lookup does not tell apart what it finds there (`Lookup.applyWith_congr`).  Only
the error of a missing field shows more: it lists the names of the node in their order.
So a query of built-in lookups has the same answer on nodes that mean the same, or fails
on both with the same kind of error (`Query.sameOutcome_of_meaning_eq`).
-/

import RecordQuery.Proofs.ErrorKinds
import RecordQuery.Proofs.LookupCongruence
import RecordQuery.Proofs.Partition
import RecordQuery.Proofs.Spelling

namespace RecordQuery

/-! ### Keys -/

namespace Field

variable {field other : Field}

/-- Fields that mean the same hold nodes together. -/
theorem isRelated_congr (h : field.meaning = other.meaning) :
    field.isRelated = other.isRelated := by
  obtain ⟨_, content⟩ := field
  obtain ⟨_, content'⟩ := other
  cases content <;> cases content' <;> first | rfl | simp [meaning, Content.meaning] at h

/-- Their nodes mean the same. -/
theorem map_meaning_related_congr (h : field.meaning = other.meaning) :
    field.related.map Node.meaning = other.related.map Node.meaning := by
  obtain ⟨_, content⟩ := field
  obtain ⟨_, content'⟩ := other
  rw [meaning, meaning] at h
  cases content with
  | scalar s => cases content' <;> first | rfl | simp [Content.meaning] at h
  | array items => cases content' <;> first | rfl | simp [Content.meaning] at h
  | node n =>
    cases content' with
    | node m => exact congrArg (fun meaning => [meaning]) (ContentMeaning.node.inj h)
    | _ => cases h
  | dataset members =>
    cases content' with
    | dataset members' =>
      rw [Content.meaning, Content.meaning, membersMeaning_eq_map, membersMeaning_eq_map] at h
      exact ContentMeaning.dataset.inj h
    | _ => cases h

end Field

/-- Under a name, nodes that mean the same have fields that mean the same, or none. -/
theorem Node.cases_get?_of_meaning_eq {n m : Node} (h : n.meaning = m.meaning) (name : String) :
    (n.get? name = none ∧ m.get? name = none) ∨ ∃ field other,
      n.get? name = some field ∧ m.get? name = some other ∧ field.meaning = other.meaning := by
  have hname := Node.meaning_eq_iff.1 h name
  cases hn : n.get? name with
  | none =>
    rw [hn, Option.map_none, eq_comm, Option.map_eq_none_iff] at hname
    exact .inl ⟨rfl, hname⟩
  | some field =>
    rw [hn, Option.map_some, eq_comm, Option.map_eq_some_iff] at hname
    obtain ⟨other, hother, hmeaning⟩ := hname
    exact .inr ⟨field, other, rfl, hother, hmeaning.symm⟩

/-- A scan has the same outcome on members that mean the same, if each test has. -/
theorem KeyPath.sameOutcome_anyMember {test : Node → Except LookupError Bool}
    (htest : ∀ n m : Node, n.meaning = m.meaning → SameOutcome (test n) (test m))
    {members members' : List Node} (h : members.map Node.meaning = members'.map Node.meaning) :
    SameOutcome (anyMember test members) (anyMember test members') := by
  induction members generalizing members' with
  | nil =>
    rw [List.map_nil, eq_comm, List.map_eq_nil_iff] at h
    rw [h]
    exact .ok false
  | cons n members ih =>
    cases members' with
    | nil => cases h
    | cons m members' =>
      obtain ⟨hhead, htail⟩ := List.cons.inj h
      exact (htest n m hhead).bind fun _ => (ih htail).bind fun _ => .ok _

section

variable [PatternEngine]

namespace KeyPath

variable {path : KeyPath} {op : Op} (hlookup : path.lookup = .builtin op)
  (pattern : Option Pattern) (operand : Operand)
include hlookup

/-- Where a path ends, contents that mean the same lead to the same. -/
theorem arrive_congr {content other : Content} (h : content.meaning = other.meaning) :
    path.arrive pattern operand content = path.arrive pattern operand other := by
  have hvalue : ∀ {v w : Value}, v.meaning = w.meaning →
      path.lookup.applyWith pattern v operand = path.lookup.applyWith pattern w operand := by
    rw [hlookup]
    exact fun h => Lookup.applyWith_congr pattern h operand
  cases content with
  | scalar s =>
    cases other with
    | scalar t => exact hvalue (ContentMeaning.value.inj h)
    | array items => cases ContentMeaning.value.inj h
    | _ => cases h
  | array items =>
    cases other with
    | scalar t => cases ContentMeaning.value.inj h
    | array items' => exact hvalue (ContentMeaning.value.inj h)
    | _ => cases h
  | node n =>
    cases other with
    | node m => rfl
    | _ => cases h
  | dataset members =>
    cases other with
    | dataset members' =>
      -- Only whether there are members counts here.
      cases members <;> cases members' <;> first | rfl | cases ContentMeaning.dataset.inj h
    | _ => cases h

omit hlookup in
/-- A path that goes on where there is a value is at fault. -/
theorem follow_cons_value {name next : String} {rest : List String} {n : Node}
    {field : Field} (h : n.get? name = some field) (hr : ¬field.isRelated) :
    path.follow pattern operand name (next :: rest) n =
      .error (.invalidPath path.key (.valueField name next)) := by
  rw [follow, Node.get, h]
  obtain ⟨_, content⟩ := field
  cases content with
  | scalar s => rfl
  | array items => rfl
  | node child => exact absurd rfl hr
  | dataset members => exact absurd rfl hr

/-- **A key with a built-in lookup leads to the same outcome from nodes that mean the
same.** -/
theorem sameOutcome_follow (name : String) (rest : List String) {n m : Node}
    (h : n.meaning = m.meaning) :
    SameOutcome (path.follow pattern operand name rest n)
      (path.follow pattern operand name rest m) := by
  induction rest generalizing name n m with
  | nil =>
    rw [follow, follow, Node.get, Node.get]
    rcases Node.cases_get?_of_meaning_eq h name with ⟨hn, hm⟩ | ⟨field, other, hn, hm, hmeaning⟩
    · rw [hn, hm]
      exact .error rfl
    · rw [hn, hm]
      exact .of_eq (arrive_congr hlookup pattern operand hmeaning)
  | cons next rest ih =>
    rcases Node.cases_get?_of_meaning_eq h name with ⟨hn, hm⟩ | ⟨field, other, hn, hm, hmeaning⟩
    · rw [follow, follow, Node.get, Node.get, hn, hm]
      exact .error rfl
    · by_cases hr : field.isRelated
      · have hr' : other.isRelated := Field.isRelated_congr hmeaning ▸ hr
        rw [follow_cons hn hr, follow_cons hm hr']
        exact sameOutcome_anyMember (fun n m hnm => ih next hnm)
          (Field.map_meaning_related_congr hmeaning)
      · have hr' : ¬other.isRelated := Field.isRelated_congr hmeaning ▸ hr
        rw [follow_cons_value pattern operand hn hr, follow_cons_value pattern operand hm hr']
        exact .error rfl

end KeyPath

/-! ### Queries -/

/-- Whether all clauses apply built-in lookups. -/
def Clause.UseBuiltins (clauses : List Clause) : Prop :=
  ∀ c ∈ clauses, ∃ op, c.path.lookup = .builtin op

/-- Whether a query applies built-in lookups only. -/
def Query.UsesBuiltins (registry : Registry) (q : Query) : Prop :=
  ∀ clauses, q.compile registry = .ok clauses → Clause.UseBuiltins clauses

/-- **Clauses with built-in lookups do not tell nodes apart that mean the same.** -/
theorem Clause.sameOutcome_allHold {clauses : List Clause} (hclauses : UseBuiltins clauses)
    {n m : Node} (h : n.meaning = m.meaning) :
    SameOutcome (allHold n clauses) (allHold m clauses) := by
  induction clauses with
  | nil => exact .ok true
  | cons c clauses ih =>
    obtain ⟨⟨op, hop⟩, hclauses⟩ := List.forall_mem_cons.1 hclauses
    have hfirst : SameOutcome (c.holds n) (c.holds m) :=
      KeyPath.sameOutcome_follow hop c.pattern c.operand c.path.head c.path.rest h
    exact hfirst.bind fun _ => (ih hclauses).bind fun _ => .ok _

namespace Query

variable {registry : Registry} {q : Query}

/-- **Queries of built-in lookups do not tell nodes apart that mean the same.** -/
theorem sameOutcome_of_meaning_eq (hq : q.UsesBuiltins registry) {n m : Node}
    (h : n.meaning = m.meaning) : SameOutcome (q.holds registry n) (q.holds registry m) := by
  cases hcompile : q.compile registry with
  | error e =>
    rw [holds_of_compile_error hcompile, holds_of_compile_error hcompile]
    exact .error rfl
  | ok clauses =>
    rw [holds_eq_allHold hcompile, holds_eq_allHold hcompile]
    exact Clause.sameOutcome_allHold (hq clauses hcompile) h

end Query

end

/-- A registry in which nothing was registered has built-in lookups only. -/
theorem Registry.exists_builtin_of_get? {name : String} {lookup : Lookup}
    (h : builtin.get? name = some lookup) : ∃ op, lookup = .builtin op := by
  obtain ⟨op, -, heq⟩ := List.mem_map.1 (Entries.mem_of_get? h)
  exact ⟨op, (Prod.mk.inj heq).2.symm⟩

/-- A key read there ends in a built-in lookup. -/
theorem Registry.exists_builtin_of_parse {key : String} {path : KeyPath}
    (h : KeyPath.parse builtin key = .ok path) : ∃ op, path.lookup = .builtin op := by
  obtain ⟨-, hlookup, -⟩ := KeyPath.parse_eq_ok_iff.1 h
  rw [KeyPath.lookupOf] at hlookup
  split at hlookup
  · rename_i lookup hget
    obtain ⟨name, -, hname⟩ := Option.bind_eq_some_iff.1 hget
    exact (Prod.mk.inj hlookup).2 ▸ exists_builtin_of_get? hname
  · exact ⟨.exact .sensitive, (Prod.mk.inj hlookup).2.symm⟩

/-- Where nothing is registered, all queries apply built-in lookups only. -/
theorem Query.usesBuiltins [PatternEngine] (q : Query) : q.UsesBuiltins .builtin := by
  intro clauses hclauses c hc
  rw [compile, compileEntries_eq_mapM, mapM_eq_ok_iff] at hclauses
  obtain ⟨predicate, -, hparse⟩ := exists_mem_of_forall₂ hclauses hc
  obtain ⟨path, hpath, hparse⟩ := bind_eq_ok_iff.1 hparse
  obtain ⟨pattern, -, hparse⟩ := bind_eq_ok_iff.1 hparse
  cases hparse
  exact Registry.exists_builtin_of_parse hpath

end RecordQuery

/-
# Filtering and excluding part a dataset in two

Filtering and excluding are one selection (`Dataset.choose`) with opposite
choices.  Neither stops at a node that has already been rejected: all clauses are
evaluated on all nodes, so both succeed or both fail with the same error, the
first one in the order of nodes and then of clauses (`Query.FailsOn`).  If they
succeed, every node goes to exactly one of them, as it is and in order.

A query without predicates selects nothing: both operations give the whole
dataset.
-/

import RecordQuery.Proofs.FirstFault

namespace RecordQuery

section

variable [PatternEngine]

/-- `e` is what a query fails with on some nodes: what its first key that can not
be compiled fails with, or else the first failing clause on the first failing
node. -/
def Query.FailsOn (registry : Registry) (q : Query) (nodes : List Node) (e : LookupError) :
    Prop :=
  q.compile registry = .error e ∨ ∃ clauses, q.compile registry = .ok clauses ∧
    ∃ before n after, nodes = before ++ n :: after ∧
      (∀ m ∈ before, ∀ c ∈ clauses, (c.holds m).isOk) ∧
        FirstFault (Clause.holds · n) clauses e

namespace Query

variable {registry : Registry} {q : Query} {clauses : List Clause} {e : LookupError}

/-- Keys are compiled one by one. -/
theorem compileEntries_eq_mapM (registry : Registry) (predicates : Entries Operand) :
    compileEntries registry predicates =
      predicates.mapM fun p => Clause.parse registry p.1 p.2 := by
  induction predicates with
  | nil => rfl
  | cons p predicates ih => rw [compileEntries, List.mapM_cons, ih]

/-- There is one clause for each predicate. -/
theorem length_of_compile (h : q.compile registry = .ok clauses) :
    clauses.length = q.predicates.length := by
  rw [compile, compileEntries_eq_mapM, mapM_eq_ok_iff] at h
  exact h.length_eq.symm

/-- A query has no clauses if it has no predicates. -/
theorem isEmpty_of_compile (h : q.compile registry = .ok clauses) :
    clauses.isEmpty = q.predicates.isEmpty := by
  rw [Bool.eq_iff_iff, List.isEmpty_iff_length_eq_zero, List.isEmpty_iff_length_eq_zero,
    length_of_compile h]

/-- A query without predicates compiles to no clauses. -/
theorem compile_of_isEmpty (hq : q.predicates = []) : q.compile registry = .ok [] := by
  rw [compile, hq]
  rfl

/-- A query with one predicate compiles to one clause, if its key can be read. -/
theorem compile_singleton (registry : Registry) (key : String) (operand : Operand) :
    compile registry ⟨[(key, operand)]⟩ =
      (Clause.parse registry key operand).map fun c => [c] := by
  rw [compile, compileEntries, compileEntries]
  cases Clause.parse registry key operand <;> rfl

/-- A query that can not be compiled fails with what its key fails with, whatever the nodes. -/
theorem failsOn_of_compile_error (h : q.compile registry = .error e) {nodes : List Node}
    {e' : LookupError} : q.FailsOn registry nodes e' ↔ e = e' := by
  simp [FailsOn, h]

/-- With compiled clauses, a query fails as the first failing node does. -/
theorem failsOn_iff_firstFault (h : q.compile registry = .ok clauses) {nodes : List Node} :
    q.FailsOn registry nodes e ↔ FirstFault (Clause.allHold · clauses) nodes e := by
  have hnodes : FirstFault (Clause.allHold · clauses) nodes e ↔
      ∃ before n after, nodes = before ++ n :: after ∧
        (∀ m ∈ before, ∀ c ∈ clauses, (c.holds m).isOk) ∧
          FirstFault (Clause.holds · n) clauses e := by
    simp only [← Clause.isOk_allHold_iff, ← Clause.allHold_eq_error_iff]
    rfl
  simp [FailsOn, h, hnodes]

/-- A compiled query holds if all of its clauses do. -/
theorem holds_eq_allHold (h : q.compile registry = .ok clauses) (n : Node) :
    q.holds registry n = Clause.allHold n clauses := by
  rw [holds, h]
  rfl

/-- A query that can not be compiled fails on every node. -/
theorem holds_of_compile_error (h : q.compile registry = .error e) (n : Node) :
    q.holds registry n = .error e := by
  rw [holds, h]
  rfl

/-- A query fails on one node as it fails on the dataset of that node. -/
theorem holds_eq_error_iff {n : Node} :
    q.holds registry n = .error e ↔ q.FailsOn registry [n] e := by
  cases hclauses : q.compile registry with
  | error e' =>
    rw [failsOn_of_compile_error hclauses, holds_of_compile_error hclauses, Except.error.injEq]
  | ok clauses =>
    rw [failsOn_iff_firstFault hclauses, holds_eq_allHold hclauses, firstFault_cons]
    simp [not_firstFault_nil]

end Query

namespace Node

variable {registry : Registry} {q : Query} {n : Node}

/-- A node of which a query holds is found. -/
theorem filter_of_holds (h : q.holds registry n = .ok true) : n.filter registry q = .ok n := by
  rw [filter, h]
  rfl

/-- A node of which a query does not hold is reported as not found. -/
theorem filter_of_not_holds (h : q.holds registry n = .ok false) :
    n.filter registry q = .error .objectNotFound := by
  rw [filter, h]
  rfl

/-- A node on which a query fails is reported with that fault. -/
theorem filter_of_holds_error {e : LookupError} (h : q.holds registry n = .error e) :
    n.filter registry q = .error e := by
  rw [filter, h]
  rfl

end Node

/-- Whether a node is in the result of a selection: without clauses every node is. -/
def Selection.passes (selection : Selection) (clauses : List Clause) (n : Node) : Bool :=
  clauses.isEmpty || selection.selects clauses n

namespace Dataset

/-- Filtering and excluding as one operation. -/
def choose : Selection → Registry → Query → Dataset → Except LookupError Dataset
  | .matching => filter
  | .others => exclude

variable {registry : Registry} {q : Query} {d : Dataset} {clauses : List Clause}
  {e : LookupError}

omit [PatternEngine] in
/-- A dataset that does not cascade is that of its nodes. -/
theorem ofNodes_nodes (hd : d.cascade = false) : ofNodes d.nodes = d := by
  rw [ofNodes, ← hd]

/-- Both operations compile the query and select by its clauses. -/
theorem choose_eq (selection : Selection) (registry : Registry) (q : Query) (d : Dataset) :
    d.choose selection registry q = (do d.select selection (← q.compile registry)) := by
  cases selection <;> rfl

/-- Without predicates nothing is selected and the whole dataset is the result. -/
theorem choose_of_isEmpty (selection : Selection) (hq : q.predicates = []) :
    d.choose selection registry q = .ok (ofNodes d.nodes) := by
  rw [choose_eq, Query.compile_of_isEmpty hq]
  rfl

/-- With a compiled query, the operation is a selection by its clauses. -/
theorem choose_eq_select (selection : Selection) (hclauses : q.compile registry = .ok clauses) :
    d.choose selection registry q = d.select selection clauses := by
  rw [choose_eq, hclauses]
  rfl

/-- A query that can not be compiled fails on every dataset. -/
theorem choose_of_compile_error (selection : Selection) (h : q.compile registry = .error e) :
    d.choose selection registry q = .error e := by
  rw [choose_eq, h]
  rfl

/-- Without cascading, the selected nodes are the result. -/
theorem select_eq_selectNodes (selection : Selection) (hd : d.cascade = false)
    (hclauses : clauses ≠ []) :
    d.select selection clauses = (selectNodes selection clauses d.nodes).map ofNodes := by
  simp [select, hd, hclauses]

section

variable (selection : Selection) (hd : d.cascade = false) (hq : q.predicates ≠ [])
include hd hq

/-- Without cascading, a query with predicates gives the selected nodes. -/
theorem choose_eq_selectNodes (hclauses : q.compile registry = .ok clauses) :
    d.choose selection registry q = (selectNodes selection clauses d.nodes).map ofNodes := by
  rw [choose_eq_select selection hclauses, select_eq_selectNodes selection hd]
  intro h
  have hempty := Query.isEmpty_of_compile hclauses
  simp [h, hq] at hempty

/-- **Which error is reported does not depend on the selection.** -/
theorem choose_eq_error_iff :
    d.choose selection registry q = .error e ↔ q.FailsOn registry d.nodes e := by
  cases hclauses : q.compile registry with
  | error e' =>
    rw [choose_of_compile_error selection hclauses, Query.failsOn_of_compile_error hclauses,
      Except.error.injEq]
  | ok clauses =>
    rw [choose_eq_selectNodes selection hd hq hclauses, Query.failsOn_iff_firstFault hclauses,
      map_eq_error_iff, selectNodes_eq_error_iff]

/-- **A selection succeeds if every clause can be evaluated on every node,** and
gives the nodes that it keeps. -/
theorem choose_eq_ok_iff {r : Dataset} :
    d.choose selection registry q = .ok r ↔
      ∃ clauses, q.compile registry = .ok clauses ∧
        (∀ n ∈ d.nodes, ∀ c ∈ clauses, (c.holds n).isOk) ∧
          r = ofNodes (d.nodes.filter (selection.selects clauses)) := by
  cases hclauses : q.compile registry with
  | error e => simp [choose_of_compile_error selection hclauses]
  | ok clauses =>
    simp only [choose_eq_selectNodes selection hd hq hclauses, map_eq_ok_iff,
      selectNodes_eq_ok_iff, Clause.isOk_allHold_iff, Except.ok.injEq, exists_eq_left']
    grind

/-- Whether a selection succeeds does not depend on what it keeps. -/
theorem isOk_choose_iff :
    (d.choose selection registry q).isOk ↔ ∃ clauses, q.compile registry = .ok clauses ∧
      ∀ n ∈ d.nodes, ∀ c ∈ clauses, (c.holds n).isOk := by
  simp only [isOk_iff (r := d.choose selection registry q), choose_eq_ok_iff selection hd hq]
  grind

end

/-- **What a selection gives,** for queries without predicates too. -/
theorem choose_eq_ok_iff_passes (selection : Selection) (hd : d.cascade = false) {r : Dataset} :
    d.choose selection registry q = .ok r ↔
      ∃ clauses, q.compile registry = .ok clauses ∧
        (∀ n ∈ d.nodes, (Clause.allHold n clauses).isOk) ∧
          r = ofNodes (d.nodes.filter (selection.passes clauses)) := by
  by_cases hq : q.predicates = []
  · have hcompile : q.compile registry = .ok [] := Query.compile_of_isEmpty hq
    have hall : d.nodes.filter (selection.passes []) = d.nodes :=
      List.filter_eq_self.2 fun _ _ => rfl
    rw [choose_of_isEmpty selection hq, Except.ok.injEq, hcompile]
    constructor
    · rintro rfl
      exact ⟨[], rfl, fun _ _ => rfl, congrArg ofNodes hall.symm⟩
    · rintro ⟨_, hnil, -, rfl⟩
      obtain rfl := Except.ok.inj hnil
      exact (congrArg ofNodes hall).symm
  · rw [choose_eq_ok_iff selection hd hq]
    refine exists_congr fun clauses => and_congr_right fun hcompile => ?_
    have hsome : clauses.isEmpty = false := by
      rw [Query.isEmpty_of_compile hcompile]
      simpa using hq
    have hpasses : selection.passes clauses = selection.selects clauses := by
      funext n
      rw [Selection.passes, hsome, Bool.false_or]
    simp only [hpasses, Clause.isOk_allHold_iff]

/-- Filtering keeps the nodes of which the query holds. -/
theorem selects_matching (hclauses : q.compile registry = .ok clauses) (n : Node) :
    Selection.matching.selects clauses n = decide (q.holds registry n = .ok true) := by
  rw [Selection.selects, Query.holds_eq_allHold hclauses]
  cases Clause.allHold n clauses <;> simp [Except.map, Selection.keeps]

/-- Excluding keeps the nodes of which it does not hold. -/
theorem selects_others (hclauses : q.compile registry = .ok clauses) (n : Node) :
    Selection.others.selects clauses n = decide (q.holds registry n = .ok false) := by
  rw [Selection.selects, Query.holds_eq_allHold hclauses]
  cases Clause.allHold n clauses <;> simp [Except.map, Selection.keeps]

/-- On a node without faults, one selection keeps what the other does not. -/
theorem selects_others_eq_not {n : Node} (h : (Clause.allHold n clauses).isOk) :
    Selection.others.selects clauses n = !Selection.matching.selects clauses n := by
  obtain ⟨b, hb⟩ := isOk_iff.1 h
  cases b <;> simp [Selection.selects, hb, Except.map, Selection.keeps]

/-- **Filtering and excluding part a dataset in two.**  On a dataset that does not
cascade, and for a query with predicates:

* both fail with the same errors, those of the first failing clause on the first
  failing node if the query compiles, and that node by itself fails with it too;
* both succeed if the query compiles and every clause can be evaluated on every
  node;
* then the nodes of which the query holds are in one result and the others in the
  other, unchanged and in order, so together they are all nodes;
* a node by itself is found, not found, or reported at fault, accordingly.

Without predicates both give the dataset back. -/
theorem filter_exclude_partition (registry : Registry) (q : Query) (hd : d.cascade = false) :
    (q.predicates = [] → d.filter registry q = .ok d ∧ d.exclude registry q = .ok d) ∧
    (q.predicates ≠ [] →
      (∀ e, (d.filter registry q = .error e ↔ q.FailsOn registry d.nodes e) ∧
        (d.exclude registry q = .error e ↔ q.FailsOn registry d.nodes e) ∧
        (q.FailsOn registry d.nodes e → q.compile registry = .error e ∨
          ∃ n ∈ d.nodes, n.filter registry q = .error e)) ∧
      (((d.filter registry q).isOk ↔ (d.exclude registry q).isOk) ∧
        ((d.filter registry q).isOk ↔ ∃ clauses, q.compile registry = .ok clauses ∧
          ∀ n ∈ d.nodes, ∀ c ∈ clauses, (c.holds n).isOk)) ∧
      (∀ kept rest, d.filter registry q = .ok kept → d.exclude registry q = .ok rest →
        kept = ofNodes (d.nodes.filter fun n => q.holds registry n = .ok true) ∧
        rest = ofNodes (d.nodes.filter fun n => q.holds registry n = .ok false) ∧
        (kept.nodes ++ rest.nodes).Perm d.nodes) ∧
      ∀ n ∈ d.nodes,
        (q.holds registry n = .ok true → n.filter registry q = .ok n) ∧
        (q.holds registry n = .ok false → n.filter registry q = .error .objectNotFound) ∧
        ∀ e, q.FailsOn registry [n] e → n.filter registry q = .error e) := by
  refine ⟨fun hq => ?_, fun hq => ⟨fun e => ⟨?_, ?_, ?_⟩, ⟨?_, ?_⟩, ?_,
    fun n _ => ⟨?_, ?_, ?_⟩⟩⟩
  · have hself : ofNodes d.nodes = d := by
      obtain ⟨nodes, cascade⟩ := d
      exact congrArg (mk nodes) hd.symm
    exact ⟨hself ▸ choose_of_isEmpty .matching hq, hself ▸ choose_of_isEmpty .others hq⟩
  · exact choose_eq_error_iff .matching hd hq
  · exact choose_eq_error_iff .others hd hq
  · rintro (h | ⟨clauses, hclauses, before, n, after, hnodes, -, hfault⟩)
    · exact .inl h
    · refine .inr ⟨n, by simp [hnodes], Node.filter_of_holds_error (Query.holds_eq_error_iff.2 ?_)⟩
      exact .inr ⟨clauses, hclauses, [], n, [], rfl, by simp, hfault⟩
  · exact (isOk_choose_iff .matching hd hq).trans (isOk_choose_iff .others hd hq).symm
  · exact isOk_choose_iff .matching hd hq
  · intro kept rest hkept hrest
    obtain ⟨clauses, hclauses, hok, rfl⟩ := (choose_eq_ok_iff .matching hd hq).1 hkept
    obtain ⟨clauses', hclauses', -, rfl⟩ := (choose_eq_ok_iff .others hd hq).1 hrest
    obtain rfl : clauses = clauses' := Except.ok.inj (hclauses.symm.trans hclauses')
    refine ⟨?_, ?_, ?_⟩
    · rw [funext (selects_matching hclauses)]
    · rw [funext (selects_others hclauses)]
    · have hothers : d.nodes.filter (Selection.others.selects clauses) =
          d.nodes.filter fun n => !Selection.matching.selects clauses n :=
        List.filter_congr fun n hn =>
          selects_others_eq_not (Clause.isOk_allHold_iff.2 (hok n hn))
      simp only [ofNodes, hothers]
      exact List.filter_append_perm _ _
  · exact Node.filter_of_holds
  · exact Node.filter_of_not_holds
  · exact fun e h => Node.filter_of_holds_error (Query.holds_eq_error_iff.2 h)

end Dataset

end

namespace Dataset

/-- A record without a grade. -/
def ungraded : Node := .ofContents [("title", .scalar (.string "a"))]

/-- A record with a grade. -/
def graded : Node :=
  .ofContents [("title", .scalar (.string "b")), ("grade", .scalar (.string "1"))]

/-- The hypothesis is satisfiable, with either outcome.  Asked for a title and a
grade, the first record lacks the grade, and excluding reports that as filtering
does although the title is already wrong.  Asked for the title alone, one record
goes to each result. -/
theorem filter_exclude_partition_graded :
    (ofNodes [ungraded, graded]).cascade = false ∧
    (ofNodes [ungraded, graded]).exclude .builtin
      ⟨[("title", .scalar (.string "b")), ("grade", .scalar (.string "1"))]⟩ =
        .error (.unknownField "grade" ["title"]) ∧
    ((ofNodes [graded]).nodes ++ (ofNodes [ungraded]).nodes).Perm [ungraded, graded] := by
  have hd : (ofNodes [ungraded, graded]).cascade = false := rfl
  have hfault := (filter_exclude_partition .builtin
    ⟨[("title", .scalar (.string "b")), ("grade", .scalar (.string "1"))]⟩ hd).2
      (List.cons_ne_nil _ _)
  have hparts := (filter_exclude_partition .builtin ⟨[("title", .scalar (.string "b"))]⟩ hd).2
    (List.cons_ne_nil _ _)
  obtain ⟨hfilter, hexclude, -⟩ := hfault.1 (.unknownField "grade" ["title"])
  obtain ⟨-, -, hperm⟩ := hparts.2.2.1 (ofNodes [graded]) (ofNodes [ungraded]) rfl rfl
  exact ⟨hd, hexclude.2 (hfilter.1 rfl), hperm⟩

end Dataset
end RecordQuery

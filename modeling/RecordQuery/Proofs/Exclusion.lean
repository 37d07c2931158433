/-
# Excluding by one predicate

Excluding keeps the nodes that a query does not hold of, and a cascading dataset then drops
the members of nested datasets that the rest of the query holds of.  If the query is one
predicate, there are no such members: a key holds of a node if the rest of it holds of one
member anywhere along its path, so if it does not hold, its rest holds of no member at any
level (`Clause.holds_eq_false_along`).

Nothing is narrowed then (`Node.Indexed.narrow_others_eq_self`), and cascading makes no
difference.  With several predicates it does: a node is kept as soon as one of them does
not hold of it, and the others may hold of members.
-/

import RecordQuery.Proofs.Stability

namespace RecordQuery

/-! ### Below a node that a clause does not hold of -/

namespace Node

/-- Names lead on from where the names before them lead. -/
theorem along_append (names : List String) (name : String) (n : Node) :
    n.along (names ++ [name]) = (n.along names).flatMap (relatedIn name) := by
  induction names generalizing n with
  | nil => rw [List.nil_append, along, along, along_nil, List.flatMap_singleton]
  | cons first names ih =>
    rw [List.cons_append, along, along, List.flatMap_assoc, funext ih]

end Node

section

variable [PatternEngine]

namespace Clause

variable {c c' : Clause} {clauses : List Clause} {n child : Node}

/-- **What remains of a clause that does not hold holds of no node of its first field.** -/
theorem holds_eq_false_of_descend? (h : c.holds n = .ok false) (hdescend : c.descend? = some c')
    (hchild : child ∈ n.relatedIn c.head) : c'.holds child = .ok false := by
  obtain ⟨field, hget, hr⟩ : n.HasRelated c.head := hasRelated_of_holds hdescend h
  have hany : KeyPath.anyMember c'.holds field.related = .ok false :=
    (holds_eq_ok_iff hdescend hget hr).1 h
  obtain ⟨hok, hnone⟩ := KeyPath.anyMember_eq_ok_iff.1 hany
  rw [Node.relatedIn_eq hget] at hchild
  obtain ⟨b, hb⟩ := isOk_iff.1 (hok child hchild)
  cases b with
  | true => exact absurd (decide_eq_true hb) (List.any_eq_false.1 hnone.symm child hchild)
  | false => exact hb

/-- If no clause holds of a node, what remains of them below a field holds of none of its
nodes. -/
theorem holds_eq_false_of_mem_under {name : String} (h : ∀ c ∈ clauses, c.holds n = .ok false)
    (hchild : child ∈ n.relatedIn name) :
    ∀ c' ∈ under name clauses, c'.holds child = .ok false := by
  intro c' hc'
  obtain ⟨c, hc, rfl, hdescend⟩ := mem_under.1 hc'
  exact holds_eq_false_of_descend? (h c hc) hdescend hchild

/-- A conjunction of some clauses does not hold where none of them does. -/
theorem allHold_eq_false (hne : clauses ≠ []) (h : ∀ c ∈ clauses, c.holds n = .ok false) :
    allHold n clauses = .ok false := by
  obtain ⟨c, hc⟩ := List.exists_mem_of_ne_nil clauses hne
  refine allHold_eq_ok_iff.2 ⟨fun c hc => isOk_iff.2 ⟨false, h c hc⟩, ?_⟩
  exact (List.all_eq_false.2 ⟨c, hc, by simp [h c hc]⟩).symm

end Clause

/-- **A clause that does not hold of a node holds nowhere along its path:** what remains of
it after some names holds of no node that these names lead to.  The induction is on the
names from the last one. -/
theorem Clause.holds_eq_false_along {c c' : Clause} {n child : Node} {names : List String}
    (h : c.holds n = .ok false) (hc' : c.remainder? names = some c')
    (hchild : child ∈ n.along names) : c'.holds child = .ok false := by
  induction names using List.reverseRecOn generalizing c' child with
  | nil =>
    obtain rfl : c = c' := Option.some.inj ((remainder?_nil c).symm.trans hc')
    exact List.mem_singleton.1 hchild ▸ h
  | append_singleton names name ih =>
    rw [remainder?_append] at hc'
    obtain ⟨between, hbetween, hc'⟩ := Option.bind_eq_some_iff.1 hc'
    obtain ⟨rfl, hdescend⟩ := Option.ite_none_right_eq_some.1 hc'
    rw [Node.along_append] at hchild
    obtain ⟨m, hm, hchild⟩ := List.mem_flatMap.1 hchild
    exact holds_eq_false_of_descend? (ih hbetween hm) hdescend hchild

/-! ### Nothing to narrow -/

/-- A field stays as it is if no clause that leads into it holds of any of its nodes, and
these stay as they are. -/
theorem Content.narrow_others_eq_self {clauses : List Clause} {content : Content}
    (hfalse : ∀ child ∈ content.related, ∀ c ∈ clauses, c.holds child = .ok false)
    (hself : ∀ child ∈ content.related, child.narrow .others clauses = .ok child) :
    content.narrow .others clauses = .ok content := by
  by_cases hclauses : clauses = []
  · rw [hclauses, narrow_nil]
  · cases content with
    | scalar s => rfl
    | array items => rfl
    | node child =>
      rw [narrow_node, hself child (List.mem_singleton.2 rfl)]
      rfl
    | dataset members =>
      have hmembers : narrowMembers .others clauses members = .ok members := by
        refine narrowMembers_eq_self fun m hm => ⟨?_, hself m hm⟩
        rw [Selection.selects_eq (Clause.allHold_eq_false hclauses (hfalse m hm))]
        rfl
      rw [narrow_dataset hclauses, hmembers]
      rfl

/-- **Where no clause holds, excluding narrows nothing.** -/
theorem Node.Indexed.narrow_others_eq_self {n : Node} {clauses : List Clause} (hn : n.Indexed)
    (h : ∀ c ∈ clauses, c.holds n = .ok false) : n.narrow .others clauses = .ok n := by
  induction n using Node.induction generalizing clauses with
  | step n ih =>
    obtain ⟨hnames, -⟩ := hn.named
    refine Node.narrow_eq_self hnames ?_
    rintro ⟨name, field⟩ hentry
    have hget : n.get? name = some field := hn.distinct.get?_of_mem hentry
    have hbelow : ∀ child ∈ field.related, ∀ c ∈ Clause.under name clauses,
        c.holds child = .ok false := fun child hchild =>
      Clause.holds_eq_false_of_mem_under h (Node.relatedIn_eq hget ▸ hchild)
    exact Content.narrow_others_eq_self hbelow fun child hchild =>
      ih name field hentry child hchild (hn.of_related hget hchild) (hbelow child hchild)

namespace Dataset

variable {registry : Registry} {d : Dataset} {c : Clause}

/-- Excluding by one clause selects the nodes that it does not hold of. -/
theorem selects_others_singleton (c : Clause) (n : Node) :
    Selection.others.selects [c] n = decide (c.holds n = .ok false) := by
  rw [Selection.selects, Clause.allHold_singleton]
  cases c.holds n <;> simp [Except.map, Selection.keeps]

/-- Excluding by one clause keeps the nodes that it does not hold of. -/
theorem select_others_eq_ok_iff (hd : d.cascade = false) {r : Dataset} :
    d.select .others [c] = .ok r ↔ (∀ n ∈ d.nodes, (c.holds n).isOk) ∧
      r = ofNodes (d.nodes.filter fun n => c.holds n = .ok false) := by
  simp only [select_eq_selectNodes .others hd (List.cons_ne_nil c []), map_eq_ok_iff,
    selectNodes_eq_ok_iff, Clause.allHold_singleton, funext (selects_others_singleton c)]
  grind

/-- **Cascading makes no difference to excluding by one clause.** -/
theorem onCascade_select_others (hd : d.cascade = false) (hnodes : ∀ n ∈ d.nodes, n.Indexed) :
    d.onCascade.select .others [c] = d.select .others [c] := by
  rw [onCascade_select_eq_bind .others [c] hd hnodes]
  cases hplain : d.select .others [c] with
  | error e => rfl
  | ok plain =>
    obtain ⟨-, rfl⟩ := (select_others_eq_ok_iff hd).1 hplain
    have hself : (d.nodes.filter fun n => c.holds n = .ok false).mapM (Node.narrow .others [c]) =
        .ok (d.nodes.filter fun n => c.holds n = .ok false) := by
      refine mapM_eq_ok_iff.2 (List.forall₂_same.2 fun n hn => ?_)
      obtain ⟨hmem, hfalse⟩ := List.mem_filter.1 hn
      exact (hnodes n hmem).narrow_others_eq_self
        (List.forall_mem_singleton.2 (of_decide_eq_true hfalse))
    exact congrArg (Except.map ofNodes) hself

/-- **Cascading adds nothing to excluding by one predicate.**  Let the fields of all nodes of
a dataset be indexed by their names, at any depth, as is the case with all nodes that come
from records.

* Excluding gives the same result or the same error, whether the dataset cascades or not.
* The result has the nodes that the predicate does not hold of, as they were and in order.
* Of each of them the predicate holds nowhere along its path: what remains of it after some
  names holds of no node that these names lead to. -/
theorem onCascade_exclude_singleton (registry : Registry) (key : String) (operand : Operand)
    (hnodes : ∀ n ∈ d.nodes, n.Indexed) :
    d.onCascade.exclude registry ⟨[(key, operand)]⟩ = d.exclude registry ⟨[(key, operand)]⟩ ∧
    ∀ r, d.onCascade.exclude registry ⟨[(key, operand)]⟩ = .ok r →
      ∃ c, Clause.parse registry key operand = .ok c ∧
        r = ofNodes (d.nodes.filter fun n => c.holds n = .ok false) ∧
          ∀ n ∈ r.nodes, ∀ names c', c.remainder? names = some c' →
            ∀ child ∈ n.along names, c'.holds child = .ok false := by
  have hplain : d.onCascade.exclude registry ⟨[(key, operand)]⟩ =
      (ofNodes d.nodes).exclude registry ⟨[(key, operand)]⟩ := by
    rw [exclude, exclude, Query.compile_singleton]
    cases Clause.parse registry key operand with
    | error e => rfl
    | ok c => exact onCascade_select_others (d := ofNodes d.nodes) rfl hnodes
  refine ⟨?_, fun r hr => ?_⟩
  · obtain ⟨nodes, _ | _⟩ := d
    · exact hplain
    · rfl
  · rw [hplain, exclude, Query.compile_singleton] at hr
    obtain ⟨clauses, hclauses, hr⟩ := bind_eq_ok_iff.1 hr
    obtain ⟨c, hc, rfl⟩ := map_eq_ok_iff.1 hclauses
    obtain ⟨-, rfl⟩ := (select_others_eq_ok_iff rfl).1 hr
    refine ⟨c, hc, rfl, fun n hn names c' hc' child hchild => ?_⟩
    obtain ⟨-, hfalse⟩ := List.mem_filter.1 hn
    exact Clause.holds_eq_false_along (of_decide_eq_true hfalse) hc' hchild

end Dataset

end

namespace Dataset

/-- The hypothesis is satisfiable.  Of two authors one has a book of the genre, and is
dropped; the other one keeps both books.  A name that no book has is reported. -/
theorem onCascade_exclude_singleton_author :
    (∀ n ∈ [author [novel "x", novel "y"], author [novel "y", novel "z"]], n.Indexed) ∧
    (ofNodes [author [novel "x", novel "y"], author [novel "y", novel "z"]]).onCascade.exclude
      .builtin ⟨[("books__genre", .scalar (.string "x"))]⟩ =
        .ok (ofNodes [author [novel "y", novel "z"]]) ∧
    (ofNodes [author [novel "x", novel "y"], author [novel "y", novel "z"]]).onCascade.exclude
      .builtin ⟨[("books__year", .scalar (.string "x"))]⟩ =
        .error (.unknownField "year" ["title", "genre"]) := by
  have hnodes : ∀ n ∈ [author [novel "x", novel "y"], author [novel "y", novel "z"]],
      n.Indexed :=
    List.forall_mem_cons.2 ⟨indexed_author (by simp [indexed_novel]),
      List.forall_mem_singleton.2 (indexed_author (by simp [indexed_novel]))⟩
  obtain ⟨hgenre, -⟩ := onCascade_exclude_singleton
    (d := ofNodes [author [novel "x", novel "y"], author [novel "y", novel "z"]])
    .builtin "books__genre" (.scalar (.string "x")) hnodes
  obtain ⟨hyear, -⟩ := onCascade_exclude_singleton
    (d := ofNodes [author [novel "x", novel "y"], author [novel "y", novel "z"]])
    .builtin "books__year" (.scalar (.string "x")) hnodes
  exact ⟨hnodes, hgenre.trans (by cbv), hyear.trans (by cbv)⟩

end Dataset
end RecordQuery

/-
# Asking a narrowed dataset again

A cascading dataset judges every node before it narrows it.  A clause that did not hold of a
node does not hold of what it is narrowed to (`Clause.holds_of_narrow`), so what was kept by
excluding is kept again.  By filtering it is kept again if no two clauses lead into the same
field (`Clause.holds_of_narrow_matching`).  Selections of these two kinds are called steady
(`Selection.Steady`).

A steady selection keeps what it has narrowed (`Selection.selects_of_narrow`), and then
narrowing again changes nothing (`Node.narrow_of_narrow`).
-/

import RecordQuery.Proofs.NarrowedClauses

namespace RecordQuery

/-- What holds between the members of a list, two by two, is carried over to those of another
that correspond to them. -/
theorem pairwise_of_forall₂ {α β : Type} {R : α → β → Prop} {P : α → α → Prop} {Q : β → β → Prop}
    {as : List α} {bs : List β} (h : List.Forall₂ R as bs) (hpairs : as.Pairwise P)
    (hQ : ∀ a a' b b', R a b → R a' b' → P a a' → Q b b') : bs.Pairwise Q := by
  induction h with
  | nil => exact .nil
  | @cons a b as bs hab hrest ih =>
    obtain ⟨hfirst, hpairs⟩ := List.pairwise_cons.1 hpairs
    refine .cons (fun b' hb' => ?_) (ih hpairs)
    obtain ⟨a', ha', hab'⟩ := exists_mem_of_forall₂ hrest hb'
    exact hQ a a' b b' hab hab' (hfirst a' ha')

section

variable [PatternEngine] {selection : Selection} {clauses : List Clause} {n n' : Node}

/-! ### What is selected is selected again -/

/-- Clauses by which a selection keeps the nodes that it has narrowed: any clauses, if
those nodes are kept that the clauses do not hold of. -/
def Selection.Steady (selection : Selection) (clauses : List Clause) : Prop :=
  selection = .matching → Clause.Apart clauses

/-- Below a field such clauses stay of this kind. -/
theorem Selection.Steady.under (h : selection.Steady clauses) (name : String) :
    selection.Steady (Clause.under name clauses) :=
  fun hmatching => (h hmatching).under name

/-- A node that is selected was tested without a fault. -/
theorem Selection.isOk_of_selects (h : selection.selects clauses n) :
    (Clause.allHold n clauses).isOk := by
  obtain ⟨holds, hholds, -⟩ := map_eq_ok_iff.1 (of_decide_eq_true h)
  exact isOk_iff.2 ⟨holds, hholds⟩

/-- **A selection keeps what it has narrowed.** -/
theorem Selection.selects_of_narrow (hn : n.Named) (hsteady : selection.Steady clauses)
    (h : n.narrow selection clauses = .ok n') (hselects : selection.selects clauses n) :
    selection.selects clauses n' := by
  cases selection with
  | matching =>
    rw [Dataset.selects_matching_iff] at hselects ⊢
    exact Clause.holds_of_narrow_matching hn (hsteady rfl) h hselects
  | others =>
    obtain ⟨holds, hholds, hkeeps⟩ := map_eq_ok_iff.1 (of_decide_eq_true hselects)
    obtain ⟨holds', hholds', hle⟩ := Clause.allHold_of_narrow hn h hholds
    have hfalse : holds' = false := by
      cases holds with
      | true => cases hkeeps
      | false => exact Bool.eq_false_iff.2 fun htrue => Bool.false_ne_true (hle htrue)
    rw [selects_eq hholds', hfalse]
    rfl

/-- Members that are selected and can not be narrowed stay as they are. -/
theorem narrowMembers_eq_self {members : List Node}
    (h : ∀ m ∈ members, selection.selects clauses m ∧ m.narrow selection clauses = .ok m) :
    narrowMembers selection clauses members = .ok members := by
  have hall : members.filter (selection.selects clauses) = members :=
    List.filter_eq_self.2 fun m hm => (h m hm).1
  rw [narrowMembers_eq_ok_iff, hall, List.forall₂_same]
  exact ⟨fun m hm => Selection.isOk_of_selects (h m hm).1, fun m hm => (h m hm).2⟩

/-- Where the nodes of a field can not be narrowed again, neither can the field: the members
that were kept are kept again. -/
theorem Content.narrow_of_narrow {content content' : Content} (hsteady : selection.Steady clauses)
    (h : content.narrow selection clauses = .ok content')
    (hnamed : ∀ child ∈ content.related, child.Named)
    (hrelated : ∀ child ∈ content.related, ∀ child', child.narrow selection clauses = .ok child' →
      child'.narrow selection clauses = .ok child') :
    content'.narrow selection clauses = .ok content' := by
  rcases cases_of_narrow h with ⟨rfl, -⟩ | ⟨n, n', rfl, rfl, hn⟩ |
    ⟨members, members', rfl, rfl, hmembers⟩
  · exact h
  · rw [narrow_node, hrelated n (List.mem_singleton.2 rfl) n' hn]
    rfl
  · by_cases hnone : clauses = []
    · rw [hnone, narrow_nil]
    · have hagain : narrowMembers selection clauses members' = .ok members' := by
        refine narrowMembers_eq_self fun m' hm' => ?_
        obtain ⟨-, hforall⟩ := narrowMembers_eq_ok_iff.1 hmembers
        obtain ⟨m, hm, hnarrow⟩ := exists_mem_of_forall₂ hforall hm'
        obtain ⟨hm, hselects⟩ := List.mem_filter.1 hm
        exact ⟨Selection.selects_of_narrow (hnamed m hm) hsteady hnarrow hselects,
          hrelated m hm m' hnarrow⟩
      rw [narrow_dataset hnone, hagain]
      rfl

/-- **Narrowing again changes nothing.** -/
theorem Node.narrow_of_narrow (hn : n.Named) (hsteady : selection.Steady clauses)
    (h : n.narrow selection clauses = .ok n') : n'.narrow selection clauses = .ok n' := by
  induction n using Node.induction generalizing clauses n' with
  | step n ih =>
    have hforall := hn.forall₂_of_narrow h
    obtain ⟨-, hchildren⟩ := hn
    refine narrow_eq_self (fun entry' hentry' => ?_) fun entry' hentry' => ?_
    · obtain ⟨-, -, -, hname, -⟩ := exists_mem_of_forall₂ hforall hentry'
      exact hname
    · obtain ⟨entry, hentry, hkey, -, hcontent⟩ := exists_mem_of_forall₂ hforall hentry'
      rw [← hkey]
      exact Content.narrow_of_narrow (hsteady.under entry.1) hcontent (hchildren entry hentry)
        fun child hchild child' => ih entry.1 entry.2 hentry child hchild
          (hchildren entry hentry child hchild) (hsteady.under entry.1)

namespace Dataset

variable {d r : Dataset}

/-- **What a cascading selection gives is selected again,** by plain and by cascading
selection, and stays as it is. -/
theorem select_of_onCascade_select (hd : ∀ n ∈ d.nodes, n.Named)
    (hsteady : selection.Steady clauses) (h : d.onCascade.select selection clauses = .ok r) :
    (r.select selection clauses = .ok r ∧ r.onCascade.select selection clauses = .ok r) ∧
      ∀ n ∈ r.nodes, selection.passes clauses n := by
  by_cases hnone : clauses = []
  · subst hnone
    obtain rfl : ofNodes d.nodes = r := Except.ok.inj h
    exact ⟨⟨rfl, rfl⟩, fun _ _ => rfl⟩
  · have hcascade : ∀ d : Dataset, d.onCascade.select selection clauses =
        (narrowMembers selection clauses d.nodes).map ofNodes := fun d => by
      simp [select, onCascade, hnone]
    rw [hcascade, map_eq_ok_iff] at h
    obtain ⟨nodes, hnodes, rfl⟩ := h
    obtain ⟨-, hforall⟩ := narrowMembers_eq_ok_iff.1 hnodes
    have hagain : ∀ n' ∈ nodes, selection.selects clauses n' ∧
        n'.narrow selection clauses = .ok n' := by
      intro n' hn'
      obtain ⟨n, hn, hnarrow⟩ := exists_mem_of_forall₂ hforall hn'
      obtain ⟨hn, hselects⟩ := List.mem_filter.1 hn
      exact ⟨Selection.selects_of_narrow (hd n hn) hsteady hnarrow hselects,
        Node.narrow_of_narrow (hd n hn) hsteady hnarrow⟩
    have hselect : selectNodes selection clauses nodes = .ok nodes :=
      selectNodes_eq_ok_iff.2 ⟨fun n' hn' => Selection.isOk_of_selects (hagain n' hn').1,
        (List.filter_eq_self.2 fun n' hn' => (hagain n' hn').1).symm⟩
    rw [select_eq_selectNodes selection rfl hnone, hcascade]
    refine ⟨⟨?_, ?_⟩, fun n' hn' => ?_⟩
    · exact congrArg (Except.map ofNodes) hselect
    · exact congrArg (Except.map ofNodes) (narrowMembers_eq_self hagain)
    · rw [Selection.passes, (hagain n' hn').1, Bool.or_true]

variable {registry : Registry} {q : Query}

/-- What a cascading operation gives is chosen again by the same query. -/
theorem choose_of_onCascade_choose (hd : ∀ n ∈ d.nodes, n.Named)
    (hsteady : ∀ clauses, q.compile registry = .ok clauses → selection.Steady clauses)
    (h : d.onCascade.choose selection registry q = .ok r) :
    (r.choose selection registry q = .ok r ∧ r.onCascade.choose selection registry q = .ok r) ∧
      ∃ clauses, q.compile registry = .ok clauses ∧
        ∀ n ∈ r.nodes, selection.passes clauses n := by
  rw [choose_eq] at h
  obtain ⟨clauses, hcompile, h⟩ := bind_eq_ok_iff.1 h
  obtain ⟨hagain, hpasses⟩ := select_of_onCascade_select hd (hsteady clauses hcompile) h
  rw [choose_eq_select selection hcompile, choose_eq_select selection hcompile]
  exact ⟨hagain, clauses, hcompile, hpasses⟩

end Dataset

/-- No two keys of several segments begin with the same one. -/
def Query.HeadsApart (registry : Registry) (q : Query) : Prop :=
  q.predicates.Pairwise fun p p' => ∀ path path', KeyPath.parse registry p.1 = .ok path →
    KeyPath.parse registry p'.1 = .ok path' → path.rest ≠ [] → path'.rest ≠ [] →
      path.head ≠ path'.head

/-- The path of a clause is that of its key. -/
theorem Clause.path_of_parse {registry : Registry} {key : String} {operand : Operand} {c : Clause}
    (h : parse registry key operand = .ok c) : KeyPath.parse registry key = .ok c.path :=
  (parse_eq_ok_iff.1 h).1

/-- The clauses of such a query lead into fields of their own. -/
theorem Query.HeadsApart.apart {registry : Registry} {q : Query} (h : q.HeadsApart registry)
    (hcompile : q.compile registry = .ok clauses) : Clause.Apart clauses := by
  rw [compile, compileEntries_eq_mapM, mapM_eq_ok_iff] at hcompile
  refine pairwise_of_forall₂ hcompile h fun p p' c c' hc hc' hheads => ?_
  exact hheads c.path c'.path (Clause.path_of_parse hc) (Clause.path_of_parse hc')

namespace Dataset

/-- **Cascaded results are stable.**  Let the fields of all nodes of a dataset stand under the
names that they bear, at any depth, as is the case with all nodes that come from records.

* What a cascading dataset gives when a query is excluded, any query, stays as it is when
  the query is excluded again, whether the result cascades or not.
* The same holds for filtering if no two keys of several segments begin with the same one;
  then the query holds of every node of the result, without a fault. -/
theorem onCascade_choose_stable (registry : Registry) (q : Query) (d : Dataset)
    (hd : ∀ n ∈ d.nodes, n.Named) : (∀ r, d.onCascade.exclude registry q = .ok r →
      r.exclude registry q = .ok r ∧ r.onCascade.exclude registry q = .ok r) ∧
    (q.HeadsApart registry → ∀ r, d.onCascade.filter registry q = .ok r →
      (r.filter registry q = .ok r ∧ r.onCascade.filter registry q = .ok r) ∧
        ∀ n ∈ r.nodes, q.holds registry n = .ok true) := by
  refine ⟨fun r h => ?_, fun hheads r h => ?_⟩
  · have hsteady : ∀ clauses, q.compile registry = .ok clauses →
        Selection.others.Steady clauses := fun _ _ hmatching => by cases hmatching
    exact (choose_of_onCascade_choose hd hsteady h).1
  · have hsteady : ∀ clauses, q.compile registry = .ok clauses →
        Selection.matching.Steady clauses := fun _ hcompile _ => hheads.apart hcompile
    obtain ⟨hagain, clauses, hcompile, hpasses⟩ := choose_of_onCascade_choose hd hsteady h
    refine ⟨hagain, fun n hn => ?_⟩
    have hselects : Selection.matching.selects clauses n := passes_matching clauses ▸ hpasses n hn
    rw [selects_matching hcompile] at hselects
    exact of_decide_eq_true hselects

end Dataset

end

namespace Dataset

/-- Two predicates: some book has the genre `x`, and the author has this name. -/
def genreAndName (name : String) : Query :=
  ⟨[("books__genre", .scalar (.string "x")), ("name", .scalar (.string name))]⟩

/-- The hypotheses are satisfiable.  Of two books one has the genre asked for.  Filtering
keeps it and excluding, by a query that does not hold of the author, keeps the other one;
asked again, each result stays as it is. -/
theorem onCascade_choose_stable_author :
    (∀ n ∈ [author [novel "x", novel "y"]], n.Named) ∧
    ((genreAndName "n").HeadsApart .builtin ∧
      (ofNodes [author [novel "x", novel "y"]]).onCascade.filter .builtin (genreAndName "n") =
        .ok (ofNodes [author [novel "x"]]) ∧
      (ofNodes [author [novel "x"]]).onCascade.filter .builtin (genreAndName "n") =
        .ok (ofNodes [author [novel "x"]])) ∧
    (ofNodes [author [novel "x", novel "y"]]).onCascade.exclude .builtin (genreAndName "m") =
      .ok (ofNodes [author [novel "y"]]) ∧
    (ofNodes [author [novel "y"]]).exclude .builtin (genreAndName "m") =
      .ok (ofNodes [author [novel "y"]]) := by
  have hname : KeyPath.parse .builtin "name" =
      .ok ⟨"name", "name", [], .builtin (.exact .sensitive)⟩ := rfl
  have hheads : (genreAndName "n").HeadsApart .builtin := by
    refine List.pairwise_pair.2 fun path path' _ hpath' _ hrest' => ?_
    obtain rfl := Except.ok.inj (hname.symm.trans hpath')
    exact absurd rfl hrest'
  have hfilter : (ofNodes [author [novel "x", novel "y"]]).onCascade.filter .builtin
      (genreAndName "n") = .ok (ofNodes [author [novel "x"]]) := by cbv
  have hexclude : (ofNodes [author [novel "x", novel "y"]]).onCascade.exclude .builtin
      (genreAndName "m") = .ok (ofNodes [author [novel "y"]]) := by cbv
  have hnamed : ∀ n ∈ [author [novel "x", novel "y"]], n.Named :=
    List.forall_mem_singleton.2 (indexed_author (by simp [indexed_novel])).named
  obtain ⟨⟨-, hfilterAgain⟩, -⟩ :=
    (onCascade_choose_stable .builtin (genreAndName "n") _ hnamed).2 hheads _ hfilter
  obtain ⟨hexcludeAgain, -⟩ :=
    (onCascade_choose_stable .builtin (genreAndName "m") _ hnamed).1 _ hexclude
  exact ⟨hnamed, ⟨hheads, hfilter, hfilterAgain⟩, hexclude, hexcludeAgain⟩

/-- Where two keys begin with the same name, filtering again may drop what was kept: each
of them holds of a book, but both of none. -/
example : (ofNodes [author [novel "x", .ofContents [("title", .scalar (.string "b")),
      ("genre", .scalar (.string "y"))]]]).onCascade.filter .builtin
    ⟨[("books__genre", .scalar (.string "x")), ("books__title", .scalar (.string "b"))]⟩ =
      .ok (ofNodes [author []]) ∧
    (ofNodes [author []]).filter .builtin
      ⟨[("books__genre", .scalar (.string "x")), ("books__title", .scalar (.string "b"))]⟩ =
        .ok (ofNodes []) :=
  ⟨by cbv, by cbv⟩

end Dataset
end RecordQuery

/-
# Queries on related nodes

A dotted name leads from a dataset, level by level, to the nodes that are then filtered
(`followSegments_eq_ok_iff_leads`).  So filtering related nodes succeeds if the name leads on
everywhere and the query does on what is reached (`Dataset.filterRelated_eq_ok_iff`), and
otherwise reports what stops the first level that can not be left, or else the fault of the
query (`Dataset.filterRelated_eq_error_iff`).

It is also the same as taking the nodes of one level after the other as a dataset of its own,
which is what filtering related nodes by a query without predicates gives (`Dataset.project`),
and filtering from the last but one (`Dataset.filterRelated_stepwise`).
-/

import RecordQuery.Proofs.Conjunction
import RecordQuery.Proofs.RelatedLevels
import RecordQuery.Proofs.Repeats

namespace RecordQuery
namespace Dataset

variable {registry : Registry} {name : String} {names : List String} {q : Query} {d : Dataset}
  {r : Dataset} {e : LookupError}

/-! ### What a dotted name leads to -/

/-- The nodes that a dotted name leads to from the nodes of a dataset. -/
def reached (name : String) (d : Dataset) : List Node :=
  d.nodes.flatMap (Node.along (dottedSegments name))

/-- A dotted name leads on from a dataset if no segment is empty, and each is the name of a
field of nodes in all nodes of its level. -/
def LeadsOn (name : String) (d : Dataset) : Prop :=
  "" ∉ dottedSegments name ∧ ∀ n ∈ d.nodes, n.Leads (dottedSegments name)

/-- **Following a name that leads on gives what it leads to.** -/
theorem followSegments_dottedSegments_eq_ok_iff {nodes : List Node} :
    followSegments name (dottedSegments name) d.nodes = .ok nodes ↔
      d.LeadsOn name ∧ nodes = d.reached name := by
  rw [followSegments_eq_ok_iff_leads, LeadsOn, reached, and_assoc]

/-- A name does not lead on if a segment is empty, or some node lacks that of its level. -/
theorem not_leadsOn_iff : ¬d.LeadsOn name ↔
    "" ∈ dottedSegments name ∨
    ∃ before segment after, dottedSegments name = before ++ segment :: after ∧
      ∃ n ∈ d.nodes.flatMap (Node.along before), ∃ e, n.Lacks name segment e := by
  rw [LeadsOn, not_and_or, not_not]
  refine or_congr_right ?_
  simp only [Node.leads_iff, Node.exists_lacks_iff, List.mem_flatMap]
  push Not
  constructor
  · rintro ⟨n, hn, before, segment, after, hname, m, hm, hlacks⟩
    exact ⟨before, segment, after, hname, m, ⟨n, hn, hm⟩, hlacks⟩
  · rintro ⟨before, segment, after, hname, m, ⟨n, hn, hm⟩, hlacks⟩
    exact ⟨n, hn, before, segment, after, hname, m, hm, hlacks⟩

/-! ### Filtering what is reached -/

section

variable [PatternEngine]

/-- The nodes that the nodes of a dataset hold in a field, as a dataset of their own. -/
def project (registry : Registry) (d : Dataset) (name : String) : Except LookupError Dataset :=
  d.filterRelated registry name .empty

/-- What is reached is filtered as a dataset that does not cascade either. -/
theorem filterRelated_eq (hd : d.cascade = false) : d.filterRelated registry name q = (do
    let nodes ← followSegments name (dottedSegments name) d.nodes
    (ofNodes nodes).filter registry q) := by
  rw [filterRelated, hd]
  rfl

/-- A segment of a dotted name is a name with this segment only. -/
theorem filterRelated_of_mem {written : String} (hname : name ∈ dottedSegments written)
    (d : Dataset) : d.filterRelated registry name q = (do
      let nodes ← followSegments name [name] d.nodes
      filter registry q ⟨nodes, d.cascade⟩) := by
  rw [filterRelated, dottedSegments_of_mem hname]

/-- Projecting along it keeps all that it leads to. -/
theorem project_of_mem {written : String} (hname : name ∈ dottedSegments written)
    (d : Dataset) :
    d.project registry name = (followSegments name [name] d.nodes).map ofNodes := by
  rw [project, filterRelated_of_mem hname]
  have hall : ∀ nodes, filter registry .empty ⟨nodes, d.cascade⟩ = .ok (ofNodes nodes) :=
    fun nodes => choose_of_isEmpty .matching rfl
  cases followSegments name [name] d.nodes with
  | error e => rfl
  | ok nodes => exact hall nodes

/-- **Following all segments but the last is projecting one level after the other.** -/
theorem sameOutcome_foldlM_project {written : String} (hnames : names ⊆ dottedSegments written)
    (hd : d.cascade = false) :
    SameOutcome ((followSegments written names d.nodes).map ofNodes)
      (names.foldlM (project registry) d) := by
  induction names generalizing d with
  | nil =>
    exact .of_eq (congrArg Except.ok (ofNodes_nodes hd))
  | cons name names ih =>
    obtain ⟨hname, hnames⟩ := List.cons_subset.1 hnames
    have hlevel : (followSegments written (name :: names) d.nodes).map ofNodes =
        followSegments written [name] d.nodes >>= fun nodes =>
          (followSegments written names nodes).map ofNodes := by
      have happend := followSegments_append written [name] names d.nodes
      rw [List.singleton_append] at happend
      rw [happend]
      cases followSegments written [name] d.nodes <;> rfl
    have hproject : (name :: names).foldlM (project registry) d =
        followSegments name [name] d.nodes >>= fun nodes =>
          names.foldlM (project registry) (ofNodes nodes) := by
      rw [List.foldlM_cons, project_of_mem hname]
      cases followSegments name [name] d.nodes <;> rfl
    rw [hlevel, hproject]
    -- A level is a dataset of its own, so the induction goes on from its nodes.
    exact sameOutcome_followSegments.bind fun nodes => ih (d := ofNodes nodes) hnames rfl

/-- **Filtering related nodes is projecting one level after the other, and filtering.** -/
theorem sameOutcome_filterRelated {last : String} (hname : dottedSegments name = names ++ [last])
    (hd : d.cascade = false) :
    SameOutcome (d.filterRelated registry name q) (do
      let level ← names.foldlM (project registry) d
      level.filterRelated registry last q) := by
  have hsubset : names ⊆ dottedSegments name := hname ▸ List.subset_append_left names [last]
  have hlast : last ∈ dottedSegments name :=
    hname ▸ List.mem_append_right names (List.mem_singleton_self last)
  have hlevels : d.filterRelated registry name q =
      ((followSegments name names d.nodes).map ofNodes >>= fun level => do
        let nodes ← followSegments name [last] level.nodes
        filter registry q ⟨nodes, level.cascade⟩) := by
    rw [filterRelated_eq hd, hname, followSegments_append]
    cases followSegments name names d.nodes <;> rfl
  rw [hlevels]
  refine (sameOutcome_foldlM_project hsubset hd).bind fun level => ?_
  rw [filterRelated_of_mem hlast]
  exact sameOutcome_followSegments.bind fun nodes => .of_eq rfl

/-- **What is found.** -/
theorem filterRelated_eq_ok_iff (hd : d.cascade = false) :
    d.filterRelated registry name q = .ok r ↔
      d.LeadsOn name ∧ (ofNodes (d.reached name)).filter registry q = .ok r := by
  rw [filterRelated_eq hd, bind_eq_ok_iff]
  simp only [followSegments_dottedSegments_eq_ok_iff]
  constructor
  · rintro ⟨nodes, ⟨hleads, rfl⟩, hfilter⟩
    exact ⟨hleads, hfilter⟩
  · rintro ⟨hleads, hfilter⟩
    exact ⟨d.reached name, ⟨hleads, rfl⟩, hfilter⟩

/-- **What filtering fails with,** for queries without predicates too. -/
theorem filter_eq_error_iff (hd : d.cascade = false) :
    d.filter registry q = .error e ↔ q.FailsOn registry d.nodes e := by
  by_cases hq : q.predicates = []
  · have hcompile : q.compile registry = .ok [] := Query.compile_of_isEmpty hq
    have hok : d.filter registry q = .ok (ofNodes d.nodes) := choose_of_isEmpty .matching hq
    rw [hok, Query.failsOn_iff_firstFault hcompile]
    refine iff_of_false (fun h => by cases h) ?_
    rintro ⟨before, n, after, -, -, hfault⟩
    cases hfault
  · exact choose_eq_error_iff .matching hd hq

/-- **What is reported.** -/
theorem filterRelated_eq_error_iff (hd : d.cascade = false) :
    d.filterRelated registry name q = .error e ↔
      FailsAlong name (dottedSegments name) d.nodes e ∨
      d.LeadsOn name ∧ q.FailsOn registry (d.reached name) e := by
  rw [filterRelated_eq hd, bind_eq_error_iff, followSegments_eq_error_iff]
  refine or_congr_right ?_
  simp only [followSegments_dottedSegments_eq_ok_iff, filter_eq_error_iff (d := ofNodes _) rfl]
  constructor
  · rintro ⟨nodes, ⟨hleads, rfl⟩, hfault⟩
    exact ⟨hleads, hfault⟩
  · rintro ⟨hleads, hfault⟩
    exact ⟨d.reached name, ⟨hleads, rfl⟩, hfault⟩

/-- **Filtering the related nodes of two datasets one after the other** is doing so for each,
parents in order, and children in order. -/
theorem filterRelated_append {nodes nodes' : List Node} :
    (ofNodes (nodes ++ nodes')).filterRelated registry name q = .ok r ↔
      ∃ found found', (ofNodes nodes).filterRelated registry name q = .ok found ∧
        (ofNodes nodes').filterRelated registry name q = .ok found' ∧
          r = ofNodes (found.nodes ++ found'.nodes) := by
  have hleads : (ofNodes (nodes ++ nodes')).LeadsOn name ↔
      (ofNodes nodes).LeadsOn name ∧ (ofNodes nodes').LeadsOn name := by
    simp only [LeadsOn, ofNodes, List.forall_mem_append]
    exact and_and_left
  have hreached : (ofNodes (nodes ++ nodes')).reached name =
      (ofNodes nodes).reached name ++ (ofNodes nodes').reached name := List.flatMap_append
  have hfilter : ∀ nodes nodes' : List Node,
      (ofNodes (nodes ++ nodes')).filter registry q = .ok r ↔ (do
        let kept ← (ofNodes nodes).filter registry q
        let kept' ← (ofNodes nodes').filter registry q
        return ofNodes (kept.nodes ++ kept'.nodes)) = .ok r :=
    fun nodes nodes' => @choose_append _ .matching registry q nodes nodes' r
  simp only [filterRelated_eq_ok_iff (d := ofNodes _) rfl, hleads, hreached, hfilter,
    bind_eq_ok_iff]
  constructor
  · rintro ⟨⟨hleads, hleads'⟩, found, hfound, found', hfound', hr⟩
    exact ⟨found, found', ⟨hleads, hfound⟩, ⟨hleads', hfound'⟩, (Except.ok.inj hr).symm⟩
  · rintro ⟨found, found', ⟨hleads, hfound⟩, ⟨hleads', hfound'⟩, rfl⟩
    exact ⟨⟨hleads, hleads'⟩, found, hfound, found', hfound', rfl⟩

/-- **A single node counts as a dataset with one member,** in whichever field of whichever
node. -/
theorem filterRelated_dataset (registry : Registry) (name : String) (q : Query)
    (before after : List Node) (fields fields' : Entries Field) (key own : String)
    (child : Node) (cascade : Bool) :
    filterRelated registry name q
      ⟨before ++ .ofFields (fields ++ (key, ⟨own, .node child⟩) :: fields') :: after, cascade⟩ =
    filterRelated registry name q
      ⟨before ++ .ofFields (fields ++ (key, ⟨own, .dataset [child]⟩) :: fields') :: after,
        cascade⟩ := by
  have hgather : ∀ segment,
      (before ++ .ofFields (fields ++ (key, ⟨own, .node child⟩) :: fields') :: after).map
          (Node.gather name segment) =
        (before ++ .ofFields (fields ++ (key, ⟨own, .dataset [child]⟩) :: fields') :: after).map
          (Node.gather name segment) := by
    intro segment
    rw [List.map_append, List.map_append, List.map_cons, List.map_cons, Node.gather_dataset]
  rw [filterRelated, filterRelated]
  rw [followSegments_congr (dottedSegments_ne_nil name) hgather]

/-- A query fails on some nodes if it can not be compiled, or fails on one of them. -/
theorem not_isOk_filter_iff (hd : d.cascade = false) : ¬(d.filter registry q).isOk ↔
    (∃ e, q.compile registry = .error e) ∨ ∃ n ∈ d.nodes, ∃ e, q.holds registry n = .error e := by
  rw [isOk_filter_iff hd]
  cases hclauses : q.compile registry with
  | error e => simp
  | ok clauses =>
    simp only [← Clause.isOk_allHold_iff, ← not_isOk_iff, Query.holds_eq_allHold hclauses]
    simp [Except.isOk, Except.toBool]

/-- **When filtering related nodes fails.** -/
theorem not_isOk_filterRelated_iff (hd : d.cascade = false) :
    ¬(d.filterRelated registry name q).isOk ↔
      "" ∈ dottedSegments name ∨
      (∃ before segment after, dottedSegments name = before ++ segment :: after ∧
        ∃ n ∈ d.nodes.flatMap (Node.along before), ∃ e, n.Lacks name segment e) ∨
      (∃ e, q.compile registry = .error e) ∨
      ∃ n ∈ d.reached name, ∃ e, q.holds registry n = .error e := by
  have hok : (d.filterRelated registry name q).isOk ↔
      d.LeadsOn name ∧ ((ofNodes (d.reached name)).filter registry q).isOk := by
    simp only [isOk_iff, filterRelated_eq_ok_iff hd, exists_and_left]
  rw [hok, not_and_or, not_leadsOn_iff, not_isOk_filter_iff rfl, or_assoc]
  rfl

/-- **Filtering related nodes is projecting one level after the other, and filtering.**  For
every dotted name and every query, on a dataset that does not cascade:

* it is the same as projecting along all segments but the last, one at a time, and filtering
  the related nodes of the last one: either both give the same dataset, or both fail with
  the same kind of error;
* it gives what filtering the nodes gives that the segments lead to, parents in order and
  the children of each in order;
* it fails at the first level that can not be left, and if there is none, as the query fails
  on the nodes that are reached;
* so it fails just if a segment is empty, some node lacks the segment of its level, or the
  query can not be compiled or fails on a node that is reached.

On two datasets one after the other it succeeds just if it does on each, and gives both
results one after the other.  A field with a single node counts as one with a dataset of
this node alone. -/
theorem filterRelated_stepwise (registry : Registry) (name : String) (q : Query) :
    (∀ d : Dataset, d.cascade = false →
      (∃ names last, dottedSegments name = names ++ [last] ∧
        SameOutcome (d.filterRelated registry name q) (do
          let level ← names.foldlM (project registry) d
          level.filterRelated registry last q)) ∧
      (∀ r, d.filterRelated registry name q = .ok r ↔
        d.LeadsOn name ∧ (ofNodes (d.reached name)).filter registry q = .ok r) ∧
      (∀ e, d.filterRelated registry name q = .error e ↔
        FailsAlong name (dottedSegments name) d.nodes e ∨
        d.LeadsOn name ∧ q.FailsOn registry (d.reached name) e) ∧
      (¬(d.filterRelated registry name q).isOk ↔
        "" ∈ dottedSegments name ∨
        (∃ before segment after, dottedSegments name = before ++ segment :: after ∧
          ∃ n ∈ d.nodes.flatMap (Node.along before), ∃ e, n.Lacks name segment e) ∨
        (∃ e, q.compile registry = .error e) ∨
        ∃ n ∈ d.reached name, ∃ e, q.holds registry n = .error e)) ∧
    (∀ (nodes nodes' : List Node) (r : Dataset),
      (ofNodes (nodes ++ nodes')).filterRelated registry name q = .ok r ↔
        ∃ found found', (ofNodes nodes).filterRelated registry name q = .ok found ∧
          (ofNodes nodes').filterRelated registry name q = .ok found' ∧
            r = ofNodes (found.nodes ++ found'.nodes)) ∧
    ∀ (before after : List Node) (fields fields' : Entries Field) (key own : String)
      (child : Node) (cascade : Bool),
      filterRelated registry name q
        ⟨before ++ .ofFields (fields ++ (key, ⟨own, .node child⟩) :: fields') :: after, cascade⟩ =
      filterRelated registry name q
        ⟨before ++ .ofFields (fields ++ (key, ⟨own, .dataset [child]⟩) :: fields') :: after,
          cascade⟩ := by
  refine ⟨fun d hd => ⟨?_, fun r => filterRelated_eq_ok_iff hd,
    fun e => filterRelated_eq_error_iff hd, not_isOk_filterRelated_iff hd⟩,
    fun nodes nodes' r => filterRelated_append, filterRelated_dataset registry name q⟩
  have hsegments := List.dropLast_append_getLast (dottedSegments_ne_nil name)
  exact ⟨_, _, hsegments.symm, sameOutcome_filterRelated hsegments.symm hd⟩

end

/-- Two shelves with books, in one row and in several rows. -/
def shelves : Dataset :=
  ofNodes [
    .ofContents [("row", .node (.ofContents [("books", .dataset [novel "x", novel "y"])]))],
    .ofContents [("row", .dataset [.ofContents [("books", .node (novel "x"))],
      .ofContents [("books", .dataset [])]])]]

/-- The hypotheses are satisfiable, by a dataset with single nodes, datasets and an empty
one. -/
theorem filterRelated_stepwise_shelves :
    shelves.cascade = false ∧
    shelves.filterRelated .builtin "row.books" ⟨[("genre", .scalar (.string "x"))]⟩ =
      .ok (ofNodes [novel "x", novel "x"]) ∧
    (do
      let level ← ["row"].foldlM (project .builtin) shelves
      level.filterRelated .builtin "books" ⟨[("genre", .scalar (.string "x"))]⟩) =
        .ok (ofNodes [novel "x", novel "x"]) := by
  have hfound : shelves.filterRelated .builtin "row.books"
      ⟨[("genre", .scalar (.string "x"))]⟩ = .ok (ofNodes [novel "x", novel "x"]) := by cbv
  have hsegments : dottedSegments "row.books" = ["row"] ++ ["books"] := by decide +kernel
  obtain ⟨hdatasets, -⟩ := filterRelated_stepwise .builtin "row.books"
    ⟨[("genre", .scalar (.string "x"))]⟩
  obtain ⟨⟨names, last, hname, hsame⟩, -⟩ := hdatasets shelves rfl
  obtain ⟨rfl, hlast⟩ := List.append_inj' (hname.symm.trans hsegments) rfl
  obtain rfl : last = "books" := List.singleton_inj.1 hlast
  exact ⟨rfl, hfound, hsame.eq_ok_iff.1 hfound⟩

end Dataset
end RecordQuery

/-
# A query is an unordered conjunction

A query asks all of its predicates of every node, so the order in which they were
given decides which fault is reported first but neither whether there is one nor what
is kept.  The queries that two lists of predicates lead to have the same predicates in
another order as soon as every key has the same operand in both
(`Query.perm_ofList`): an operand that was replaced leaves no trace.  Compiling such
queries gives the same clauses in another order, and all that a selection does with
clauses is the same for every order of them, the regrouping at each level of a
cascading dataset included (`Dataset.select_perm`).

On a dataset that does not cascade, asking two queries at once is asking them one
after the other.  The second one is then asked of fewer nodes, so chaining may succeed
where the conjunction fails, but never the other way round
(`Dataset.filter_conjunction`).
-/

import Mathlib.Data.List.Nodup
import Mathlib.Data.List.Perm.Basic
import RecordQuery.Proofs.NarrowingCongruence

namespace RecordQuery

/-! ### Entries with the same values under all names -/

namespace Entries

variable {α : Type} {entries entries' : Entries α}

/-- Entries without repeated names are found exactly under their names. -/
theorem get?_eq_some_iff (h : entries.names.Nodup) {name : String} {a : α} :
    entries.get? name = some a ↔ (name, a) ∈ entries :=
  ⟨mem_of_get?, get?_of_mem h⟩

/-- **Entries are known up to their order by what is under each name.** -/
theorem perm_of_get?_eq (h : entries.names.Nodup) (h' : entries'.names.Nodup)
    (hget : ∀ name, entries.get? name = entries'.get? name) : entries.Perm entries' := by
  refine (List.perm_ext_iff_of_nodup (.of_map _ h) (.of_map _ h')).2 ?_
  rintro ⟨name, a⟩
  rw [← get?_eq_some_iff h, ← get?_eq_some_iff h', hget]

/-- Entries that have no name in common can be put together without repeating one. -/
theorem nodup_names_append (h : entries.names.Nodup) (h' : entries'.names.Nodup)
    (hdisjoint : ∀ name, entries.get? name = none ∨ entries'.get? name = none) :
    Entries.names (entries ++ entries') |>.Nodup := by
  have hnames : Entries.names (entries ++ entries') = entries.names ++ entries'.names :=
    List.map_append
  rw [hnames]
  refine List.Nodup.append h h' fun name hname hname' => ?_
  rw [← isSome_get?_iff] at hname hname'
  rcases hdisjoint name with hnone | hnone
  · simp [hnone] at hname
  · simp [hnone] at hname'

end Entries

/-! ### Queries with the same predicates -/

namespace Query

/-- No key stands twice among the predicates that are put into a query. -/
theorem nodup_ofList (predicates : List (String × Operand)) :
    (ofList predicates).predicates.names.Nodup := by
  have hstep : ∀ (q : Query), q.predicates.names.Nodup →
      (predicates.foldl (fun q p => q.and p.1 p.2) q).predicates.names.Nodup := by
    induction predicates with
    | nil => exact fun q hq => hq
    | cons p predicates ih => exact fun q hq => ih _ (Entries.nodup_names_put hq p.1 p.2)
  exact hstep empty List.nodup_nil

/-- Queries that have the same operand under every key have the same predicates. -/
theorem perm_ofList {ps qs : List (String × Operand)}
    (h : ∀ key, (ofList ps).get? key = (ofList qs).get? key) :
    (ofList ps).predicates.Perm (ofList qs).predicates :=
  Entries.perm_of_get?_eq (nodup_ofList ps) (nodup_ofList qs) h

/-- A query that has the predicates of two others is their predicates one after the
other, up to the order. -/
theorem perm_append_of_get?_eq {ps qs rs : List (String × Operand)}
    (hdisjoint : ∀ key, (ofList ps).get? key = none ∨ (ofList qs).get? key = none)
    (h : ∀ key, (ofList rs).get? key = ((ofList ps).get? key).or ((ofList qs).get? key)) :
    (ofList rs).predicates.Perm ((ofList ps).predicates ++ (ofList qs).predicates) := by
  refine Entries.perm_of_get?_eq (nodup_ofList rs)
    (Entries.nodup_names_append (nodup_ofList ps) (nodup_ofList qs) hdisjoint) fun key => ?_
  rw [Entries.get?_append]
  exact h key

section

variable [PatternEngine] {registry : Registry} {p q r : Query} {clauses : List Clause}

/-- **The same predicates compile to the same clauses,** in the order of their
predicates. -/
theorem compile_perm (hpq : p.predicates.Perm q.predicates)
    (h : p.compile registry = .ok clauses) :
    ∃ clauses', q.compile registry = .ok clauses' ∧ clauses.Perm clauses' := by
  rw [compile, compileEntries_eq_mapM, mapM_eq_ok_iff] at h
  obtain ⟨clauses', hclauses', hperm⟩ := List.perm_comp_forall₂ hpq.symm h
  refine ⟨clauses', ?_, hperm.symm⟩
  rw [compile, compileEntries_eq_mapM, mapM_eq_ok_iff]
  exact hclauses'

/-- Predicates one after the other compile if either part does. -/
theorem compile_append (h : r.predicates = p.predicates ++ q.predicates) :
    r.compile registry = .ok clauses ↔ ∃ first second, p.compile registry = .ok first ∧
      q.compile registry = .ok second ∧ clauses = first ++ second := by
  simp only [compile, compileEntries_eq_mapM, h, List.mapM_append, bind_eq_ok_iff, pure,
    Except.pure, Except.ok.injEq, eq_comm (a := clauses)]
  grind

end

end Query

/-! ### The order of clauses -/

section

variable [PatternEngine] {selection : Selection} {clauses clauses' : List Clause}

namespace Dataset

variable {registry : Registry} {p q : Query} {d r : Dataset}

/-- **Selecting does not depend on the order of the clauses,** cascading or not. -/
theorem select_perm (h : clauses.Perm clauses') (hr : d.select selection clauses = .ok r) :
    d.select selection clauses' = .ok r := by
  have hnil : clauses = [] ↔ clauses' = [] :=
    ⟨fun hnil => (hnil ▸ h).nil_eq.symm, fun hnil => (hnil ▸ h).eq_nil⟩
  have hagree : (d.select selection clauses).toOption = (d.select selection clauses').toOption :=
    toOption_select_congr hnil (fun n _ => toOption_eq_iff.2 fun _ => Clause.allHold_perm h)
      fun n _ => Node.toOption_narrow_perm h
  exact (toOption_eq_iff.1 hagree r).1 hr

/-- Queries with the same predicates choose the same nodes. -/
theorem choose_perm (hpq : p.predicates.Perm q.predicates)
    (h : d.choose selection registry p = .ok r) : d.choose selection registry q = .ok r := by
  rw [choose_eq, bind_eq_ok_iff] at h ⊢
  obtain ⟨clauses, hclauses, h⟩ := h
  obtain ⟨clauses', hclauses', hperm⟩ := Query.compile_perm hpq hclauses
  exact ⟨clauses', hclauses', select_perm hperm h⟩

/-- Queries with the same predicates choose alike. -/
theorem choose_perm_iff (hpq : p.predicates.Perm q.predicates) :
    d.choose selection registry p = .ok r ↔ d.choose selection registry q = .ok r :=
  ⟨choose_perm hpq, choose_perm hpq.symm⟩

/-! ### Chaining -/

/-- A filter selects the nodes of which every clause holds. -/
theorem selects_matching_iff {n : Node} :
    Selection.matching.selects clauses n ↔ ∀ c ∈ clauses, c.holds n = .ok true := by
  have hkeeps : Selection.matching.selects clauses n ↔ Clause.allHold n clauses = .ok true := by
    simp [Selection.selects, map_eq_ok_iff, Selection.keeps]
  rw [hkeeps, Clause.allHold_eq_ok_iff, eq_comm, List.all_eq_true]
  constructor
  · rintro ⟨-, h⟩
    exact fun c hc => of_decide_eq_true (h c hc)
  · exact fun h => ⟨fun c hc => h c hc ▸ rfl, fun c hc => decide_eq_true (h c hc)⟩

/-- A node passes a filter if all clauses hold of it, also where there are none. -/
theorem passes_matching (clauses : List Clause) :
    Selection.matching.passes clauses = Selection.matching.selects clauses := by
  funext n
  cases clauses with
  | nil => exact (selects_matching_iff.2 (List.forall_mem_nil _)).symm
  | cons c clauses => rfl

/-- A plain filter succeeds if the query compiles and no clause fails on any node, and keeps
the nodes that it selects. -/
theorem filter_eq_ok_iff (hd : d.cascade = false) :
    d.filter registry q = .ok r ↔ ∃ clauses, q.compile registry = .ok clauses ∧
      (∀ n ∈ d.nodes, ∀ c ∈ clauses, (c.holds n).isOk) ∧
        r = ofNodes (d.nodes.filter (Selection.matching.selects clauses)) := by
  simp only [← Clause.isOk_allHold_iff, ← passes_matching]
  exact choose_eq_ok_iff_passes .matching hd

/-- Whether a plain filter succeeds is a matter of each clause alone. -/
theorem isOk_filter_iff (hd : d.cascade = false) :
    (d.filter registry q).isOk ↔ ∃ clauses, q.compile registry = .ok clauses ∧
      ∀ n ∈ d.nodes, ∀ c ∈ clauses, (c.holds n).isOk := by
  simp only [isOk_iff (r := d.filter registry q), filter_eq_ok_iff hd]
  grind

/-- **The conjunction is chaining,** for a query that has the predicates of two others
one after the other. -/
theorem filter_append (hd : d.cascade = false) {both : Query}
    (h : both.predicates = p.predicates ++ q.predicates) :
    ((d.filter registry both).isOk ↔
      (d.filter registry p).isOk ∧ (d.filter registry q).isOk) ∧
    ∀ r, d.filter registry both = .ok r →
      (do let once ← d.filter registry p; once.filter registry q) = .ok r := by
  constructor
  · rw [isOk_filter_iff hd, isOk_filter_iff hd, isOk_filter_iff hd]
    simp only [Query.compile_append h]
    constructor
    · rintro ⟨_, ⟨first, second, hfirst, hsecond, rfl⟩, hok⟩
      exact ⟨⟨first, hfirst, fun n hn c hc => hok n hn c (List.mem_append_left _ hc)⟩,
        second, hsecond, fun n hn c hc => hok n hn c (List.mem_append_right _ hc)⟩
    · rintro ⟨⟨first, hfirst, hokFirst⟩, second, hsecond, hokSecond⟩
      refine ⟨_, ⟨first, second, hfirst, hsecond, rfl⟩, fun n hn c hc => ?_⟩
      exact (List.mem_append.1 hc).elim (hokFirst n hn c) (hokSecond n hn c)
  · intro r hr
    obtain ⟨_, hclauses, hok, rfl⟩ := (filter_eq_ok_iff hd).1 hr
    obtain ⟨first, second, hfirst, hsecond, rfl⟩ := (Query.compile_append h).1 hclauses
    have honce := (filter_eq_ok_iff (q := p) hd).2
      ⟨first, hfirst, fun n hn c hc => hok n hn c (List.mem_append_left _ hc), rfl⟩
    refine bind_eq_ok_iff.2 ⟨_, honce, (filter_eq_ok_iff rfl).2 ⟨second, hsecond, ?_, ?_⟩⟩
    · exact fun n hn c hc => hok n (List.mem_of_mem_filter hn) c (List.mem_append_right _ hc)
    · have hselects : ∀ n, Selection.matching.selects (first ++ second) n =
          (Selection.matching.selects second n && Selection.matching.selects first n) := by
        intro n
        rw [Bool.eq_iff_iff, Bool.and_eq_true, selects_matching_iff, selects_matching_iff,
          selects_matching_iff, List.forall_mem_append, and_comm]
      simp only [ofNodes, List.filter_filter, funext hselects]

/-- Filtering twice with the same query changes nothing. -/
theorem filter_filter (hd : d.cascade = false) (h : d.filter registry q = .ok r) :
    r.filter registry q = .ok r := by
  obtain ⟨clauses, hclauses, hok, rfl⟩ := (filter_eq_ok_iff hd).1 h
  refine (filter_eq_ok_iff rfl).2 ⟨clauses, hclauses, fun n hn => ?_, ?_⟩
  · exact hok n (List.mem_of_mem_filter hn)
  · simp only [ofNodes, List.filter_filter, Bool.and_self]

/-- **A query is a conjunction that has no order and can be taken apart.**

* Let two lists of predicates leave the same operand under every key.  Then filtering,
  or excluding, by the one succeeds if it succeeds by the other, with the same result,
  for every dataset; what a cascading one is narrowed to is the same too.
* Let the dataset not cascade, and let one list of predicates leave what two others
  with different keys leave together.  Then filtering by it succeeds exactly if
  filtering by each of the two does, and what it gives is what filtering by the first
  and then by the second gives.
* Filtering a dataset that does not cascade twice by the same query is filtering it
  once. -/
theorem filter_conjunction (registry : Registry) :
    (∀ (selection : Selection) (d : Dataset) (ps qs : List (String × Operand)),
      (∀ key, (Query.ofList ps).get? key = (Query.ofList qs).get? key) →
        ((d.choose selection registry (.ofList ps)).isOk ↔
          (d.choose selection registry (.ofList qs)).isOk) ∧
        ∀ r, d.choose selection registry (.ofList ps) = .ok r ↔
          d.choose selection registry (.ofList qs) = .ok r) ∧
    (∀ (d : Dataset) (ps qs both : List (String × Operand)), d.cascade = false →
      (∀ key, (Query.ofList ps).get? key = none ∨ (Query.ofList qs).get? key = none) →
      (∀ key, (Query.ofList both).get? key =
        ((Query.ofList ps).get? key).or ((Query.ofList qs).get? key)) →
        ((d.filter registry (.ofList both)).isOk ↔
          (d.filter registry (.ofList ps)).isOk ∧ (d.filter registry (.ofList qs)).isOk) ∧
        ∀ r, d.filter registry (.ofList both) = .ok r →
          (do let once ← d.filter registry (.ofList ps); once.filter registry (.ofList qs)) =
            .ok r) ∧
    ∀ (d : Dataset) (q : Query) (once : Dataset), d.cascade = false →
      d.filter registry q = .ok once → once.filter registry q = .ok once := by
  refine ⟨fun selection d ps qs h => ?_, fun d ps qs both hd hdisjoint h => ?_,
    fun d q once hd h => filter_filter hd h⟩
  · have hiff : ∀ r, d.choose selection registry (.ofList ps) = .ok r ↔
        d.choose selection registry (.ofList qs) = .ok r :=
      fun r => choose_perm_iff (Query.perm_ofList h)
    exact ⟨by rw [isOk_iff, isOk_iff]; exact exists_congr hiff, hiff⟩
  · have hperm := Query.perm_append_of_get?_eq hdisjoint h
    have hiff : ∀ r, d.choose .matching registry (.ofList both) = .ok r ↔
        d.choose .matching registry
          ⟨(Query.ofList ps).predicates ++ (Query.ofList qs).predicates⟩ = .ok r :=
      fun r => choose_perm_iff hperm
    obtain ⟨hok, hchain⟩ : _ ∧ _ := filter_append hd
      (show (Query.mk ((Query.ofList ps).predicates ++ (Query.ofList qs).predicates)).predicates =
        (Query.ofList ps).predicates ++ (Query.ofList qs).predicates from rfl)
    refine ⟨?_, fun r hr => hchain r ((hiff r).1 hr)⟩
    rw [← hok, isOk_iff, isOk_iff]
    exact exists_congr hiff

end Dataset

end

namespace Dataset

/-- The predicate that a book has this title. -/
def titled (title : String) : String × Operand := ("books__title", .scalar (.string title))

/-- The predicate that a book has this genre. -/
def ofGenre (genre : String) : String × Operand := ("books__genre", .scalar (.string genre))

/-- The hypotheses are satisfiable.  A title that is replaced leaves no trace, not even
in which books are kept; and asking for a genre and a title is asking for the one and
then for the other, and for both again. -/
theorem filter_conjunction_author :
    (∀ key, (Query.ofList [titled "b", ofGenre "x", titled "a"]).get? key =
      (Query.ofList [ofGenre "x", titled "a"]).get? key) ∧
    (ofNodes [author [novel "x", novel "y"]]).onCascade.filter .builtin
      (.ofList [titled "b", ofGenre "x", titled "a"]) = .ok (ofNodes [author [novel "x"]]) ∧
    (ofNodes [author [novel "x"]]).cascade = false ∧
    (∀ key, (Query.ofList [ofGenre "x"]).get? key = none ∨
      (Query.ofList [titled "a"]).get? key = none) ∧
    (∀ key, (Query.ofList [titled "b", ofGenre "x", titled "a"]).get? key =
      ((Query.ofList [ofGenre "x"]).get? key).or ((Query.ofList [titled "a"]).get? key)) ∧
    (do
      let once ← (ofNodes [author [novel "x"]]).filter .builtin (.ofList [ofGenre "x"])
      once.filter .builtin (.ofList [titled "a"])) = .ok (ofNodes [author [novel "x"]]) ∧
    (ofNodes [author [novel "x"]]).filter .builtin (.ofList [titled "a"]) =
      .ok (ofNodes [author [novel "x"]]) := by
  have hthree : Query.ofList [titled "b", ofGenre "x", titled "a"] =
      ⟨[titled "a", ofGenre "x"]⟩ := rfl
  have htwo : Query.ofList [ofGenre "x", titled "a"] = ⟨[ofGenre "x", titled "a"]⟩ := rfl
  have hgenre : Query.ofList [ofGenre "x"] = ⟨[ofGenre "x"]⟩ := rfl
  have htitle : Query.ofList [titled "a"] = ⟨[titled "a"]⟩ := rfl
  -- The keys are literals, so each lookup is a comparison with one or two of them.
  obtain ⟨hsame, hdisjoint, hboth⟩ :
      (∀ key, (Query.ofList [titled "b", ofGenre "x", titled "a"]).get? key =
        (Query.ofList [ofGenre "x", titled "a"]).get? key) ∧
      (∀ key, (Query.ofList [ofGenre "x"]).get? key = none ∨
        (Query.ofList [titled "a"]).get? key = none) ∧
      ∀ key, (Query.ofList [titled "b", ofGenre "x", titled "a"]).get? key =
        ((Query.ofList [ofGenre "x"]).get? key).or ((Query.ofList [titled "a"]).get? key) := by
    rw [hthree, htwo, hgenre, htitle]
    simp only [Query.get?, titled, ofGenre, Entries.get?]
    grind
  obtain ⟨hunordered, hchain, htwice⟩ := filter_conjunction .builtin
  have hcascade := (hunordered .matching (ofNodes [author [novel "x", novel "y"]]).onCascade
    _ _ hsame).2 (ofNodes [author [novel "x"]])
  have honce := (hchain (ofNodes [author [novel "x"]]) _ _ _ rfl hdisjoint hboth).2
    (ofNodes [author [novel "x"]]) (by rw [hthree]; cbv)
  exact ⟨hsame, hcascade.2 (by rw [htwo]; cbv), rfl, hdisjoint, hboth, honce,
    htwice (ofNodes [author [novel "x"]]) (.ofList [titled "a"]) _ rfl
      (by rw [htitle]; cbv)⟩

end Dataset
end RecordQuery

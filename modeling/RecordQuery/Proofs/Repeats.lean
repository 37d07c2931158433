/-
# Dropping repeats and selecting can change places

Dropping repeats keeps the first of each group of equal nodes, and a union is two
datasets one after the other without repeats (`Dataset.union_eq_distinct`).  A query of
built-in lookups treats equal nodes alike, so a selection keeps a group as a whole or
drops it as a whole, and it does not matter whether it is made before or after the
repeats are dropped (`filter_dropRepeats`).

Nor does it matter for faults.  A node that was dropped has an equal one that was kept,
and the query fails on both or on neither.
-/

import RecordQuery.Dataset.Union
import RecordQuery.Proofs.Indistinguishable
import RecordQuery.Proofs.Rereading

namespace RecordQuery

/-! ### Lists without repeats -/

section

variable {α : Type} (same : α → α → Bool)

/-- What follows is compared with what was seen and with what was kept. -/
theorem dropRepeats_append (seen as bs : List α) :
    dropRepeats same seen (as ++ bs) =
      dropRepeats same seen as ++ dropRepeats same (seen ++ dropRepeats same seen as) bs := by
  induction as generalizing seen with
  | nil => rw [dropRepeats, List.append_nil, List.nil_append, List.nil_append]
  | cons a as ih =>
    rw [List.cons_append, dropRepeats, dropRepeats]
    split
    · exact ih seen
    · rw [ih, List.cons_append, List.append_assoc, List.singleton_append]

variable {same}

/-- **A test that treats equal items alike can be made before repeats are dropped.**  The
induction is on the list, with any items seen before it. -/
theorem filter_dropRepeats {p : α → Bool} {seen as : List α}
    (h : ∀ b ∈ seen ++ as, ∀ a ∈ as, same b a → p b = p a) :
    (dropRepeats same seen as).filter p = dropRepeats same (seen.filter p) (as.filter p) := by
  induction as generalizing seen with
  | nil => rfl
  | cons a as ih =>
    have hsmaller : ∀ b ∈ seen ++ as, ∀ a ∈ as, same b a → p b = p a := fun b hb a' ha' =>
      h b (List.mem_append.2 ((List.mem_append.1 hb).imp_right (List.mem_cons_of_mem _))) a'
        (List.mem_cons_of_mem _ ha')
    have hlarger : ∀ b ∈ (seen ++ [a]) ++ as, ∀ a ∈ as, same b a → p b = p a :=
      fun b hb a' ha' => h b (by simpa using hb) a' (List.mem_cons_of_mem _ ha')
    cases hp : p a with
    | false =>
      rw [List.filter_cons_of_neg (by simp [hp]), dropRepeats]
      split
      · exact ih hsmaller
      · rw [List.filter_cons_of_neg (by simp [hp]), ih hlarger, List.filter_append,
          List.filter_singleton, hp]
        simp
    | true =>
      have hany : ((seen.filter p).any fun b => same b a) = seen.any fun b => same b a := by
        rw [List.any_filter, Bool.eq_iff_iff]
        simp only [List.any_eq_true, Bool.and_eq_true]
        refine exists_congr fun b => and_congr_right fun hb => and_iff_right_of_imp fun hsame => ?_
        rw [h b (List.mem_append_left _ hb) a List.mem_cons_self hsame, hp]
      rw [List.filter_cons_of_pos hp, dropRepeats, dropRepeats, hany]
      split
      · exact ih hsmaller
      · rw [List.filter_cons_of_pos hp, ih hlarger, List.filter_append, List.filter_singleton, hp]
        rfl

/-- **An item that was dropped has an equal one** among those seen or kept. -/
theorem mem_or_exists_same_of_mem {seen as : List α} {a : α} (ha : a ∈ as) :
    a ∈ dropRepeats same seen as ∨
      ∃ b ∈ seen ++ dropRepeats same seen as, same b a := by
  induction as generalizing seen with
  | nil => exact absurd ha List.not_mem_nil
  | cons first as ih =>
    rw [dropRepeats]
    split
    · rename_i hany
      rcases List.mem_cons.1 ha with rfl | ha
      · obtain ⟨b, hb, hsame⟩ := List.any_eq_true.1 hany
        exact .inr ⟨b, List.mem_append_left _ hb, hsame⟩
      · exact ih ha
    · rcases List.mem_cons.1 ha with rfl | ha
      · exact .inl List.mem_cons_self
      · rcases @ih (seen ++ [first]) ha with hkept | ⟨b, hb, hsame⟩
        · exact .inl (List.mem_cons_of_mem _ hkept)
        · refine .inr ⟨b, ?_, hsame⟩
          simpa using hb

end

/-! ### Datasets -/

section

variable [PatternEngine]

/-- Clauses that have the same outcome on two nodes keep both or none. -/
theorem SameOutcome.passes_eq {selection : Selection} {clauses : List Clause} {n m : Node}
    (h : SameOutcome (Clause.allHold n clauses) (Clause.allHold m clauses)) :
    selection.passes clauses n = selection.passes clauses m := by
  have hselects : selection.selects clauses n = selection.selects clauses m := by
    simp only [Selection.selects, map_eq_ok_iff, h.eq_ok_iff]
  rw [Selection.passes, Selection.passes, hselects]

namespace Dataset

variable {selection : Selection} {registry : Registry} {q : Query} {d e : Dataset}

omit [PatternEngine] in
/-- **A union is two datasets one after the other, without repeats.** -/
theorem union_eq_distinct (d e : Dataset) :
    d.union e = (ofNodes (d.nodes ++ e.nodes)).distinct :=
  congrArg ofNodes (dropRepeats_append Node.same [] d.nodes e.nodes).symm

/-- Selecting from two datasets one after the other is selecting from each. -/
theorem choose_append {nodes nodes' : List Node} {r : Dataset} :
    (ofNodes (nodes ++ nodes')).choose selection registry q = .ok r ↔ (do
      let kept ← (ofNodes nodes).choose selection registry q
      let kept' ← (ofNodes nodes').choose selection registry q
      return ofNodes (kept.nodes ++ kept'.nodes)) = .ok r := by
  simp only [bind_eq_ok_iff, choose_eq_ok_iff_passes (d := ofNodes _) selection rfl]
  constructor
  · rintro ⟨clauses, hcompile, hok, rfl⟩
    obtain ⟨hok, hok'⟩ := List.forall_mem_append.1 hok
    refine ⟨_, ⟨clauses, hcompile, hok, rfl⟩, _, ⟨clauses, hcompile, hok', rfl⟩, ?_⟩
    exact congrArg (fun nodes => Except.ok (ofNodes nodes)) (List.filter_append _ _).symm
  · rintro ⟨_, ⟨clauses, hcompile, hok, rfl⟩, _, ⟨clauses', hcompile', hok', rfl⟩, hr⟩
    obtain rfl := Except.ok.inj (hcompile.symm.trans hcompile')
    refine ⟨clauses, hcompile, List.forall_mem_append.2 ⟨hok, hok'⟩, ?_⟩
    rw [← Except.ok.inj hr]
    exact congrArg ofNodes (List.filter_append _ _).symm

/-- **Selecting from a dataset without repeats** is dropping the repeats of what is
selected. -/
theorem choose_distinct (hd : d.cascade = false) (hbuilt : d.Built)
    (hq : q.UsesBuiltins registry) {r : Dataset} :
    d.distinct.choose selection registry q = .ok r ↔
      (do return (← d.choose selection registry q).distinct) = .ok r := by
  have hsubset : d.distinct.nodes ⊆ d.nodes := (dropRepeats_sublist ..).subset
  simp only [bind_eq_ok_iff, choose_eq_ok_iff_passes selection hd,
    choose_eq_ok_iff_passes (d := d.distinct) selection rfl]
  have houtcome : ∀ clauses, q.compile registry = .ok clauses → ∀ n ∈ d.nodes, ∀ m ∈ d.nodes,
      n.same m → SameOutcome (Clause.allHold n clauses) (Clause.allHold m clauses) :=
    fun clauses hcompile n hn m hm hsame => Clause.sameOutcome_allHold (hq clauses hcompile)
      (((hbuilt n hn).same_iff_meaning_eq (hbuilt m hm)).1 hsame)
  have hfilter : ∀ clauses, q.compile registry = .ok clauses →
      d.distinct.nodes.filter (selection.passes clauses) =
        (ofNodes (d.nodes.filter (selection.passes clauses))).distinct.nodes :=
    fun clauses hcompile => filter_dropRepeats fun n hn m hm hsame =>
      (houtcome clauses hcompile n hn m hm hsame).passes_eq
  constructor
  · rintro ⟨clauses, hcompile, hok, rfl⟩
    refine ⟨_, ⟨clauses, hcompile, fun m hm => ?_, rfl⟩, ?_⟩
    · -- The node that was kept for this one has no fault, so this one has none.
      have hgroup : m ∈ d.distinct.nodes ∨ ∃ n ∈ d.distinct.nodes, n.same m :=
        mem_or_exists_same_of_mem hm
      rcases hgroup with hkept | ⟨n, hn, hsame⟩
      · exact hok m hkept
      · exact (houtcome clauses hcompile n (hsubset hn) m hm hsame).isOk_iff.1 (hok n hn)
    · rw [hfilter clauses hcompile]
      rfl
  · rintro ⟨_, ⟨clauses, hcompile, hok, rfl⟩, hr⟩
    refine ⟨clauses, hcompile, fun n hn => hok n (hsubset hn), ?_⟩
    rw [← Except.ok.inj hr, hfilter clauses hcompile]
    rfl

/-- **Selecting from a union** is the union of what is selected. -/
theorem choose_union (hd : d.cascade = false) (he : e.cascade = false) (hbuilt : d.Built)
    (hbuilt' : e.Built) (hq : q.UsesBuiltins registry) {r : Dataset} :
    (d.union e).choose selection registry q = .ok r ↔ (do
      let kept ← d.choose selection registry q
      let kept' ← e.choose selection registry q
      return kept.union kept') = .ok r := by
  have hboth : (ofNodes (d.nodes ++ e.nodes)).Built := List.forall_mem_append.2 ⟨hbuilt, hbuilt'⟩
  rw [union_eq_distinct, choose_distinct rfl hboth hq]
  simp only [bind_eq_ok_iff, choose_append, ofNodes_nodes hd, ofNodes_nodes he, union_eq_distinct]
  constructor
  · rintro ⟨_, ⟨kept, hkept, kept', hkept', heq⟩, hr⟩
    cases heq
    exact ⟨kept, hkept, kept', hkept', hr⟩
  · rintro ⟨kept, hkept, kept', hkept', hr⟩
    exact ⟨_, ⟨kept, hkept, kept', hkept', rfl⟩, hr⟩

end Dataset

namespace Node

/-- **Equal nodes can not be told apart.**

* On the nodes that finitely many operations lead to, equality is an equivalence.  Two of
  them are equal exactly if they mean the same, that is, if the same is under each name
  at every depth, numbers being the same if their exact values are; so two nodes with the
  same fields in another order are equal.
* A query that applies built-in lookups only has the same result on equal nodes, or fails
  on both with errors of the same kind.
* So it does not matter whether filtering, or excluding, by such a query comes before or
  after dropping repeats and uniting, on datasets that do not cascade: both orders
  succeed or both fail, and what they give has the same nodes in the same order. -/
theorem same_indistinguishable :
    (Equivalence fun n m : {n : Node // n.Reachable} => n.1.same m.1) ∧
    (∀ n m : Node, n.Reachable → m.Reachable →
      (n.same m ↔ n.meaning = m.meaning) ∧ (n.fields.Perm m.fields → n.same m)) ∧
    (∀ (registry : Registry) (q : Query) (n m : Node), q.UsesBuiltins registry →
      n.Reachable → m.Reachable → n.same m →
        SameOutcome (q.holds registry n) (q.holds registry m)) ∧
    ∀ (selection : Selection) (registry : Registry) (q : Query), q.UsesBuiltins registry →
      (∀ d : Dataset, d.Reachable → d.cascade = false → ∀ r,
        d.distinct.choose selection registry q = .ok r ↔
          (do return (← d.choose selection registry q).distinct) = .ok r) ∧
      ∀ d e : Dataset, d.Reachable → e.Reachable → d.cascade = false → e.cascade = false → ∀ r,
        (d.union e).choose selection registry q = .ok r ↔ (do
          let kept ← d.choose selection registry q
          let kept' ← e.choose selection registry q
          return kept.union kept') = .ok r := by
  have hiff : ∀ n m : Node, n.Reachable → m.Reachable →
      (n.same m ↔ n.meaning = m.meaning) :=
    fun n m hn hm => hn.built.same_iff_meaning_eq hm.built
  refine ⟨⟨?_, ?_, ?_⟩, fun n m hn hm => ⟨hiff n m hn hm, fun hperm => ?_⟩, ?_,
    fun selection registry q hq => ⟨?_, ?_⟩⟩
  · exact fun n => (hiff n.1 n.1 n.2 n.2).2 rfl
  · exact fun {n m} h => (hiff m.1 n.1 m.2 n.2).2 ((hiff n.1 m.1 n.2 m.2).1 h).symm
  · exact fun {n m o} h h' => (hiff n.1 o.1 n.2 o.2).2
      (((hiff n.1 m.1 n.2 m.2).1 h).trans ((hiff m.1 o.1 m.2 o.2).1 h'))
  · obtain ⟨hnames, -⟩ := hn.built.indexed.distinct
    exact (hiff n m hn hm).2 (meaning_eq_of_perm hnames hperm)
  · exact fun registry q n m hq hn hm h => q.sameOutcome_of_meaning_eq hq ((hiff n m hn hm).1 h)
  · exact fun d hreachable hd r => Dataset.choose_distinct hd hreachable.built hq
  · exact fun d e hreachable hreachable' hd he r =>
      Dataset.choose_union hd he hreachable.built hreachable'.built hq

end Node

end

namespace Node

/-- A record of a number of books and of one of them. -/
def counted : Node :=
  .ofContents [("count", .scalar (.number (.signed 1))),
    ("books", .dataset [.ofContents [("year", .scalar (.number (.signed 1817)))]])]

/-- The same with its fields in another order and with the floating-point numbers `1817`
and `1`. -/
def countedInFloats : Node :=
  .ofContents [("books", .dataset [.ofContents [("year",
      .scalar (.number (.float ⟨0x409C640000000000⟩)))]]),
    ("count", .scalar (.number (.float ⟨0x3FF0000000000000⟩)))]

/-- It is written as a record that is classified as it. -/
theorem reachable_counted : counted.Reachable := by
  have hbook : (ofContents [("year", .scalar (.number (.signed 1817)))]).Indexed :=
    .ofContents (show ["year"].Nodup by decide) (by simp [Content.related])
  have hindexed : counted.Indexed :=
    .ofContents (show ["count", "books"].Nodup by decide) (by simpa [Content.related] using hbook)
  exact .ofRecord hindexed.distinct.toJson rfl

/-- Floating-point numbers are classified as such, also if they are whole. -/
theorem reachable_countedInFloats : countedInFloats.Reachable := by
  have hbook : (ofContents [("year",
      .scalar (.number (.float ⟨0x409C640000000000⟩)))]).Indexed :=
    .ofContents (show ["year"].Nodup by decide) (by simp [Content.related])
  have hindexed : countedInFloats.Indexed :=
    .ofContents (show ["books", "count"].Nodup by decide) (by simpa [Content.related] using hbook)
  exact .ofRecord hindexed.distinct.toJson rfl

/-- The hypotheses are satisfiable by two nodes that differ in the order of their fields
and in the storage of their numbers.  A key that names a missing field lists the fields in
one order or the other, which is an error of the same kind; a key that holds of them keeps
both, and one of them if repeats are dropped before or after. -/
theorem same_indistinguishable_counted :
    (counted.Reachable ∧ countedInFloats.Reachable ∧ counted.same countedInFloats) ∧
    counted.meaning = countedInFloats.meaning ∧
    SameOutcome (Query.holds .builtin ⟨[("title", .scalar .null)]⟩ counted)
      (Query.holds .builtin ⟨[("title", .scalar .null)]⟩ countedInFloats) ∧
    (Dataset.ofNodes [counted, countedInFloats]).distinct.filter .builtin
      ⟨[("books__year__isnull", .scalar (.bool false))]⟩ = .ok (.ofNodes [counted]) ∧
    ((Dataset.ofNodes [counted]).union (.ofNodes [countedInFloats])).exclude .builtin
      ⟨[("books__year__isnull", .scalar (.bool true))]⟩ = .ok (.ofNodes [counted]) := by
  have hsame : counted.same countedInFloats := by decide +kernel
  have hone : (Dataset.ofNodes [counted]).Reachable :=
    .ofNodes (List.forall_mem_singleton.2 reachable_counted)
  have hother : (Dataset.ofNodes [countedInFloats]).Reachable :=
    .ofNodes (List.forall_mem_singleton.2 reachable_countedInFloats)
  have hboth : (Dataset.ofNodes [counted, countedInFloats]).Reachable :=
    .ofNodes (List.forall_mem_cons.2
      ⟨reachable_counted, List.forall_mem_singleton.2 reachable_countedInFloats⟩)
  have hdropped : (Dataset.ofNodes [counted, countedInFloats]).distinct = .ofNodes [counted] := by
    simp [Dataset.distinct, Dataset.ofNodes, firstOccurrences, dropRepeats, hsame]
  have hunited : (Dataset.ofNodes [counted]).union (.ofNodes [countedInFloats]) =
      .ofNodes [counted] := by
    rw [Dataset.union_eq_distinct]
    exact hdropped
  obtain ⟨-, hmeaning, houtcome, hselection⟩ := same_indistinguishable
  obtain ⟨hdistinct, -⟩ := hselection .matching .builtin
    ⟨[("books__year__isnull", .scalar (.bool false))]⟩ (Query.usesBuiltins _)
  obtain ⟨-, hunion⟩ := hselection .others .builtin
    ⟨[("books__year__isnull", .scalar (.bool true))]⟩ (Query.usesBuiltins _)
  have hfiltered : (Dataset.ofNodes [counted, countedInFloats]).choose .matching .builtin
      ⟨[("books__year__isnull", .scalar (.bool false))]⟩ =
        .ok (.ofNodes [counted, countedInFloats]) := by cbv
  have hexcluded : ∀ n ∈ [counted, countedInFloats], (Dataset.ofNodes [n]).choose .others
      .builtin ⟨[("books__year__isnull", .scalar (.bool true))]⟩ = .ok (.ofNodes [n]) :=
    List.forall_mem_cons.2 ⟨by cbv, List.forall_mem_singleton.2 (by cbv)⟩
  refine ⟨⟨reachable_counted, reachable_countedInFloats, hsame⟩,
    (hmeaning _ _ reachable_counted reachable_countedInFloats).1.1 hsame,
    houtcome .builtin _ _ _ (Query.usesBuiltins _) reachable_counted reachable_countedInFloats
      hsame,
    (hdistinct _ hboth rfl _).2 ?_, (hunion _ _ hone hother rfl rfl _).2 ?_⟩
  · rw [hfiltered]
    exact congrArg Except.ok hdropped
  · rw [hexcluded counted List.mem_cons_self,
      hexcluded countedInFloats (List.mem_cons_of_mem _ List.mem_cons_self)]
    exact congrArg Except.ok hunited

end Node
end RecordQuery

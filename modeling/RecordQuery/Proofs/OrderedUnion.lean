/-
# Unions in order

A union is built by going through the nodes of two datasets and taking each one that
equals none taken before.  Nodes that come from records are equal if they mean the same,
so to equal a node that was taken is to equal any earlier node, and the union consists of
the nodes that no earlier one equals (`firstOccurrences_eq_firsts`).

All laws of the union are laws of `dropRepeats` under such an equality (`ComparesBy`).
The main one is that repeats dropped earlier need not be dropped again
(`dropRepeats_dropRepeats`): it makes dropping repeats idempotent and the union
associative, with the very same nodes on both sides and not only equal ones.
-/

import RecordQuery.Proofs.Repeats

namespace RecordQuery

section

variable {α β : Type} {same : α → α → Bool} {f : α → β} {seen as bs : List α} {a : α}

/-- The items of a list that stand behind no equal one. -/
def firsts (same : α → α → Bool) (as : List α) : List α :=
  (as.zipIdx.filter fun place => (as.take place.2).all fun b => !same b place.1).map Prod.fst

/-- What stands behind all others is first if it equals none of them. -/
theorem firsts_append_singleton (same : α → α → Bool) (as : List α) (a : α) :
    firsts same (as ++ [a]) = firsts same as ++ if as.any fun b => same b a then [] else [a] := by
  have hbefore : (as.zipIdx.filter fun place =>
      ((as ++ [a]).take place.2).all fun b => !same b place.1) =
        as.zipIdx.filter fun place => (as.take place.2).all fun b => !same b place.1 := by
    refine List.filter_congr fun place hplace => ?_
    have hlt : place.2 < 0 + as.length := List.snd_lt_add_of_mem_zipIdx hplace
    rw [List.take_append_of_le_length (by omega)]
  have hlast : ((as ++ [a]).take as.length).all (fun b => !same b a) =
      !as.any fun b => same b a := by
    rw [List.take_left, List.not_any_eq_all_not]
  rw [firsts, List.zipIdx_append, List.filter_append, hbefore, List.map_append, firsts]
  congr 1
  rw [Nat.zero_add, List.zipIdx_singleton, List.filter_singleton, hlast]
  cases as.any fun b => same b a <;> rfl

/-- What is kept behind items already seen equals none of them. -/
theorem not_same_of_mem_dropRepeats {b : α} (hb : b ∈ seen) (ha : a ∈ dropRepeats same seen as) :
    ¬same b a := by
  induction as generalizing seen with
  | nil => exact absurd ha List.not_mem_nil
  | cons first as ih =>
    rw [dropRepeats] at ha
    split at ha
    · exact ih hb ha
    · rename_i hnone
      rcases List.mem_cons.1 ha with rfl | ha
      · exact fun hsame => hnone (List.any_eq_true.2 ⟨b, hb, hsame⟩)
      · exact ih (List.mem_append_left _ hb) ha

/-- **No item that is kept equals a later one.** -/
theorem pairwise_dropRepeats (same : α → α → Bool) (seen as : List α) :
    (dropRepeats same seen as).Pairwise fun a b => ¬same a b := by
  induction as generalizing seen with
  | nil => exact .nil
  | cons a as ih =>
    rw [dropRepeats]
    split
    · exact ih seen
    · refine .cons (fun b hb => ?_) (ih _)
      exact not_same_of_mem_dropRepeats (List.mem_append_right _ (List.mem_singleton.2 rfl)) hb

/-- The first occurrences in two lists are those in the first one, and behind them what the
second one adds. -/
theorem firstOccurrences_append (same : α → α → Bool) (as bs : List α) :
    firstOccurrences same (as ++ bs) =
      firstOccurrences same as ++ dropRepeats same (firstOccurrences same as) bs :=
  dropRepeats_append same [] as bs

/-- They are items of the list. -/
theorem firstOccurrences_subset : firstOccurrences same as ⊆ as :=
  (dropRepeats_sublist ..).subset

/-! ### Equality by meaning -/

/-- Two items of a list are equal exactly if `f` gives the same for both. -/
def ComparesBy (f : α → β) (same : α → α → Bool) (as : List α) : Prop :=
  ∀ a ∈ as, ∀ b ∈ as, same a b ↔ f a = f b

/-- It is enough to compare the items of a longer list. -/
theorem ComparesBy.mono (h : ComparesBy f same as) (hsubset : bs ⊆ as) : ComparesBy f same bs :=
  fun a ha b hb => h a (hsubset ha) b (hsubset hb)

/-- An item equals one that was seen exactly if `f` gave before what it gives for it. -/
theorem ComparesBy.any_iff (h : ComparesBy f same (seen ++ [a])) :
    (seen.any fun b => same b a) ↔ f a ∈ seen.map f := by
  have ha : a ∈ seen ++ [a] := List.mem_append_right _ (List.mem_singleton.2 rfl)
  rw [List.any_eq_true, List.mem_map]
  exact exists_congr fun b => and_congr_right fun hb => h b (List.mem_append_left _ hb) a ha

/-- An item that means what a seen one means is dropped. -/
theorem ComparesBy.dropRepeats_cons_of_mem (h : ComparesBy f same (seen ++ [a]))
    (ha : f a ∈ seen.map f) (as : List α) :
    dropRepeats same seen (a :: as) = dropRepeats same seen as := by
  rw [dropRepeats, if_pos (h.any_iff.2 ha)]

/-- Any other is kept, and seen from then on. -/
theorem ComparesBy.dropRepeats_cons_of_not_mem (h : ComparesBy f same (seen ++ [a]))
    (ha : f a ∉ seen.map f) (as : List α) :
    dropRepeats same seen (a :: as) = a :: dropRepeats same (seen ++ [a]) as := by
  rw [dropRepeats, if_neg (h.any_iff.not.2 ha)]

/-- What means the same as something seen is dropped. -/
theorem ComparesBy.dropRepeats_eq_nil (h : ComparesBy f same (seen ++ as))
    (hseen : as.map f ⊆ seen.map f) : dropRepeats same seen as = [] := by
  induction as with
  | nil => rfl
  | cons a as ih =>
    obtain ⟨ha, hseen⟩ := List.cons_subset.1 hseen
    have hfirst : ComparesBy f same (seen ++ [a]) := h.mono (by simp)
    have hrest : ComparesBy f same (seen ++ as) := h.mono (by grind)
    rw [hfirst.dropRepeats_cons_of_mem ha, ih hrest hseen]

/-- **Repeats dropped earlier need not be dropped again,** if whatever had been seen then
means the same as something seen now. -/
theorem ComparesBy.dropRepeats_dropRepeats {seen' : List α}
    (h : ComparesBy f same (seen ++ seen' ++ as)) (hseen : seen'.map f ⊆ seen.map f) :
    dropRepeats same seen (dropRepeats same seen' as) = dropRepeats same seen as := by
  induction as generalizing seen seen' with
  | nil => rfl
  | cons a as ih =>
    have hnow : ComparesBy f same (seen ++ [a]) := h.mono (by grind)
    have hthen : ComparesBy f same (seen' ++ [a]) := h.mono (by grind)
    by_cases ha : f a ∈ seen.map f
    · rw [hnow.dropRepeats_cons_of_mem ha]
      by_cases ha' : f a ∈ seen'.map f
      · rw [hthen.dropRepeats_cons_of_mem ha']
        exact ih (h.mono (by grind)) hseen
      · rw [hthen.dropRepeats_cons_of_not_mem ha', hnow.dropRepeats_cons_of_mem ha]
        exact ih (h.mono (by grind)) (by grind)
    · have ha' : f a ∉ seen'.map f := fun hmem => ha (hseen hmem)
      rw [hthen.dropRepeats_cons_of_not_mem ha', hnow.dropRepeats_cons_of_not_mem ha,
        hnow.dropRepeats_cons_of_not_mem ha]
      exact congrArg (a :: ·) (ih (h.mono (by grind)) (by grind))

/-- **Dropping repeats loses no meaning.** -/
theorem ComparesBy.map_subset (h : ComparesBy f same as) :
    as.map f ⊆ (firstOccurrences same as).map f := by
  intro meaning hmeaning
  obtain ⟨a, ha, rfl⟩ := List.mem_map.1 hmeaning
  have hkept : a ∈ firstOccurrences same as ∨ ∃ b ∈ firstOccurrences same as, same b a :=
    mem_or_exists_same_of_mem ha
  rcases hkept with hkept | ⟨b, hb, hsame⟩
  · exact List.mem_map_of_mem hkept
  · exact List.mem_map.2 ⟨b, hb, (h b (firstOccurrences_subset hb) a ha).1 hsame⟩

/-- The first occurrences mean the same as all items. -/
theorem ComparesBy.mem_map_iff (h : ComparesBy f same as) {x : β} :
    x ∈ (firstOccurrences same as).map f ↔ x ∈ as.map f :=
  ⟨fun hx => List.map_subset f firstOccurrences_subset hx, fun hx => h.map_subset hx⟩

/-- **The first occurrences are the items that equal no earlier one.**  By definition they
equal none that was kept.  The induction takes off the last item. -/
theorem ComparesBy.firstOccurrences_eq_firsts (h : ComparesBy f same as) :
    firstOccurrences same as = firsts same as := by
  induction as using List.reverseRecOn with
  | nil => rfl
  | append_singleton as a ih =>
    have has : ComparesBy f same as := h.mono (List.subset_append_left _ _)
    have hkept : ComparesBy f same (firstOccurrences same as ++ [a]) :=
      h.mono ((dropRepeats_sublist ..).append_right [a]).subset
    rw [firstOccurrences_append, firsts_append_singleton, ← ih has]
    congr 1
    by_cases ha : f a ∈ as.map f
    · rw [hkept.dropRepeats_cons_of_mem (has.mem_map_iff.2 ha), if_pos (h.any_iff.2 ha),
        dropRepeats]
    · rw [hkept.dropRepeats_cons_of_not_mem (has.mem_map_iff.not.2 ha),
        if_neg (h.any_iff.not.2 ha), dropRepeats]

/-- **Repeats in the second of two lists may be dropped beforehand,** since they would be
dropped behind the first one anyway. -/
theorem ComparesBy.firstOccurrences_append_right (h : ComparesBy f same (as ++ bs)) :
    firstOccurrences same (as ++ firstOccurrences same bs) = firstOccurrences same (as ++ bs) := by
  have hkept : ComparesBy f same (firstOccurrences same as ++ [] ++ bs) := by
    rw [List.append_nil]
    exact h.mono ((dropRepeats_sublist ..).append_right bs).subset
  have hagain : dropRepeats same (firstOccurrences same as) (firstOccurrences same bs) =
      dropRepeats same (firstOccurrences same as) bs :=
    hkept.dropRepeats_dropRepeats (List.nil_subset _)
  rw [firstOccurrences_append, hagain, ← firstOccurrences_append]

/-- **Dropping repeats is idempotent.** -/
theorem ComparesBy.firstOccurrences_firstOccurrences (h : ComparesBy f same as) :
    firstOccurrences same (firstOccurrences same as) = firstOccurrences same as := by
  have hnil : ComparesBy f same ([] ++ as) := h
  exact hnil.firstOccurrences_append_right

/-- **Repeats in the first of two lists may be dropped beforehand,** since dropping them is
what happens first. -/
theorem ComparesBy.firstOccurrences_append_left (h : ComparesBy f same (as ++ bs)) :
    firstOccurrences same (firstOccurrences same as ++ bs) = firstOccurrences same (as ++ bs) := by
  have has : ComparesBy f same as := h.mono (List.subset_append_left _ _)
  rw [firstOccurrences_append, has.firstOccurrences_firstOccurrences, ← firstOccurrences_append]

/-- A list adds nothing to itself. -/
theorem ComparesBy.firstOccurrences_append_self (h : ComparesBy f same as) :
    firstOccurrences same (as ++ as) = firstOccurrences same as := by
  have hkept : ComparesBy f same (firstOccurrences same as ++ as) :=
    h.mono (List.append_subset.2 ⟨firstOccurrences_subset, List.Subset.refl as⟩)
  rw [firstOccurrences_append, hkept.dropRepeats_eq_nil h.map_subset, List.append_nil]

/-- **Every item equals exactly one of the first occurrences.** -/
theorem ComparesBy.countP_firstOccurrences (h : ComparesBy f same as) (ha : a ∈ as) :
    ((firstOccurrences same as).countP fun b => same b a) = 1 := by
  have hsubset : firstOccurrences same as ⊆ as := firstOccurrences_subset
  have hnodup : ((firstOccurrences same as).map f).Nodup := by
    refine List.pairwise_map.2 ((pairwise_dropRepeats same [] as).imp_of_mem ?_)
    exact fun hb hc hne heq => hne ((h _ (hsubset hb) _ (hsubset hc)).2 heq)
  classical
  have hcount : ((firstOccurrences same as).map f).count (f a) = 1 :=
    List.count_eq_one_of_mem hnodup (h.map_subset (List.mem_map_of_mem ha))
  rw [← hcount, List.count, List.countP_map]
  refine List.countP_congr fun b hb => ?_
  rw [h b (hsubset hb) a ha]
  simp

end

/-! ### Datasets -/

namespace Dataset

section

variable [PatternEngine] {d e f : Dataset}

/-- Nodes that come from records are compared by their meaning. -/
theorem Built.comparesBy_meaning {nodes : List Node} (h : (ofNodes nodes).Built) :
    ComparesBy Node.meaning Node.same nodes :=
  fun n hn m hm => (h n hn).same_iff_meaning_eq (h m hm)

/-- The nodes of two datasets come from records if those of each do. -/
theorem Built.append (hd : d.Built) (he : e.Built) : (ofNodes (d.nodes ++ e.nodes)).Built :=
  List.forall_mem_append.2 ⟨hd, he⟩

/-- **The union is associative:** on both sides stand the first occurrences of all three
datasets one after the other. -/
theorem Built.union_assoc (hd : d.Built) (he : e.Built) (hf : f.Built) :
    (d.union e).union f = d.union (e.union f) := by
  have hleft : ComparesBy Node.meaning Node.same ((d.nodes ++ e.nodes) ++ f.nodes) :=
    ((hd.append he).append hf).comparesBy_meaning
  have hright : ComparesBy Node.meaning Node.same (d.nodes ++ (e.nodes ++ f.nodes)) :=
    (hd.append (he.append hf)).comparesBy_meaning
  calc (d.union e).union f
      = ofNodes (firstOccurrences Node.same
          (firstOccurrences Node.same (d.nodes ++ e.nodes) ++ f.nodes)) := by
        rw [union_eq_distinct, union_eq_distinct]
        rfl
    _ = ofNodes (firstOccurrences Node.same (d.nodes ++ (e.nodes ++ f.nodes))) := by
        rw [hleft.firstOccurrences_append_left, List.append_assoc]
    _ = d.union (e.union f) := by
        rw [← hright.firstOccurrences_append_right, union_eq_distinct, union_eq_distinct]
        rfl

/-- **The laws of the union.**  Let all nodes come from records.

* A union has the nodes of the two datasets, one after the other, without repeats.
* These are a subsequence of all nodes: those that no earlier one equals.
* No two of them are equal, and every node of the two datasets equals exactly one of them.
* The union is associative.
* The union of a dataset with itself, or with the empty dataset on either side, has the
  distinct nodes of the dataset, and these are distinct already.
* The results do not cascade. -/
theorem union_laws (hd : d.Built) (he : e.Built) (hf : f.Built) :
    d.union e = (ofNodes (d.nodes ++ e.nodes)).distinct ∧
    ((d.union e).nodes.Sublist (d.nodes ++ e.nodes) ∧
      (d.union e).nodes = firsts Node.same (d.nodes ++ e.nodes)) ∧
    ((d.union e).nodes.Pairwise (fun n m => ¬n.same m) ∧
      ∀ n ∈ d.nodes ++ e.nodes, ((d.union e).nodes.countP fun m => m.same n) = 1) ∧
    (d.union e).union f = d.union (e.union f) ∧
    (d.union d = d.distinct ∧ d.union (ofNodes []) = d.distinct ∧
      (ofNodes []).union d = d.distinct ∧ d.distinct.distinct = d.distinct) ∧
    (d.union e).cascade = false ∧ d.distinct.cascade = false := by
  have hnodes : ComparesBy Node.meaning Node.same d.nodes := Built.comparesBy_meaning hd
  have hboth : ComparesBy Node.meaning Node.same (d.nodes ++ e.nodes) :=
    (hd.append he).comparesBy_meaning
  have hunion : (d.union e).nodes = firstOccurrences Node.same (d.nodes ++ e.nodes) :=
    congrArg nodes (union_eq_distinct d e)
  refine ⟨union_eq_distinct d e, ⟨?_, ?_⟩, ⟨?_, fun n hn => ?_⟩, hd.union_assoc he hf,
    ⟨?_, ?_, ?_, ?_⟩, rfl, rfl⟩
  · rw [hunion]
    exact dropRepeats_sublist ..
  · rw [hunion, hboth.firstOccurrences_eq_firsts]
  · rw [hunion]
    exact pairwise_dropRepeats ..
  · rw [hunion]
    exact hboth.countP_firstOccurrences hn
  · rw [union_eq_distinct]
    exact congrArg ofNodes hnodes.firstOccurrences_append_self
  · rw [union_eq_distinct]
    exact congrArg (fun nodes => (ofNodes nodes).distinct) (List.append_nil d.nodes)
  · rw [union_eq_distinct]
    rfl
  · exact congrArg ofNodes hnodes.firstOccurrences_firstOccurrences

end

/-- The hypotheses are satisfiable by datasets of two equal nodes that differ in the order
of their fields and in the storage of their numbers.  The union keeps the one that comes
first, in whatever way three datasets are united, and the other one equals it. -/
theorem union_laws_counted :
    ((ofNodes [Node.counted]).onCascade.Built ∧ (ofNodes [Node.countedInFloats]).Built ∧
      (ofNodes [Node.countedInFloats, Node.counted]).Built) ∧
    firsts Node.same [Node.counted, Node.countedInFloats] = [Node.counted] ∧
    ((ofNodes [Node.counted]).onCascade.union (ofNodes [Node.countedInFloats])).nodes =
      [Node.counted] ∧
    (([Node.counted] : List Node).countP fun m => m.same Node.countedInFloats) = 1 ∧
    (ofNodes [Node.counted]).union ((ofNodes [Node.countedInFloats]).union
      (ofNodes [Node.countedInFloats, Node.counted])) =
        (ofNodes [Node.counted]).union (ofNodes [Node.countedInFloats, Node.counted]) := by
  have hone : (ofNodes [Node.counted]).onCascade.Built :=
    List.forall_mem_singleton.2 Node.reachable_counted.built
  have hother : (ofNodes [Node.countedInFloats]).Built :=
    List.forall_mem_singleton.2 Node.reachable_countedInFloats.built
  have hboth : (ofNodes [Node.countedInFloats, Node.counted]).Built :=
    Built.append hother hone
  have hsame : Node.counted.same Node.countedInFloats := by decide +kernel
  have hfirsts : firsts Node.same [Node.counted, Node.countedInFloats] = [Node.counted] := by
    simp [firsts, List.filter_cons, hsame]
  obtain ⟨-, ⟨-, hnodes⟩, ⟨-, hcount⟩, hassoc, -⟩ := union_laws hone hother hboth
  have hunion : ((ofNodes [Node.counted]).onCascade.union (ofNodes [Node.countedInFloats])).nodes =
      [Node.counted] := hnodes.trans hfirsts
  refine ⟨⟨hone, hother, hboth⟩, hfirsts, hunion, ?_, ?_⟩
  · rw [← hunion]
    exact hcount Node.countedInFloats (List.mem_cons_of_mem _ (List.mem_singleton.2 rfl))
  · have hkept : (ofNodes [Node.counted]).onCascade.union (ofNodes [Node.countedInFloats]) =
        ofNodes [Node.counted] := congrArg ofNodes hunion
    exact hassoc.symm.trans (by rw [hkept])

end Dataset
end RecordQuery

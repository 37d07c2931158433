/-
# What narrowing depends on

Narrowing a dataset asks of each of its members whether the clauses hold, and narrows the
members that it keeps by what remains of them.  So two lists of clauses that have the same
answers wherever narrowing asks them narrow alike: with the same result, or with a fault each
(`Node.toOption_narrow_congr`, with one lemma for every level around it).

Which fault is reported may still differ, since this depends on which clause is asked first.
So outcomes are compared without their faults (`Except.toOption`).  Clauses in another order
agree in this way (`Node.toOption_narrow_perm`), and so do clauses that ask the same in other
words.
-/

import RecordQuery.Proofs.Cascade

namespace RecordQuery

section

variable {α β ε : Type}

/-- Outcomes agree without their faults if they give the same results. -/
theorem toOption_eq_iff {r r' : Except ε α} :
    r.toOption = r'.toOption ↔ ∀ a, r = .ok a ↔ r' = .ok a := by
  cases r <;> cases r' <;> simp [Except.toOption, eq_comm]

/-- Steps that agree, followed by steps that agree, agree. -/
theorem toOption_bind_congr {r r' : Except ε α} {f f' : α → Except ε β}
    (hr : r.toOption = r'.toOption) (hf : ∀ a, (f a).toOption = (f' a).toOption) :
    (r >>= f).toOption = (r' >>= f').toOption := by
  cases r <;> cases r' <;> simp_all [Except.toOption, bind, Except.bind]

/-- Scans agree if they agree on every member. -/
theorem toOption_mapM_congr {f f' : α → Except ε β} {as : List α}
    (h : ∀ a ∈ as, (f a).toOption = (f' a).toOption) :
    (as.mapM f).toOption = (as.mapM f').toOption := by
  induction as with
  | nil => rfl
  | cons a as ih =>
    obtain ⟨ha, has⟩ := List.forall_mem_cons.1 h
    rw [List.mapM_cons, List.mapM_cons]
    exact toOption_bind_congr ha fun b => toOption_bind_congr (ih has) fun bs => rfl

/-- What is made of results that agree agrees. -/
theorem toOption_map_congr {r r' : Except ε α} (f : α → β) (h : r.toOption = r'.toOption) :
    (r.map f).toOption = (r'.map f).toOption :=
  toOption_bind_congr h fun _ => rfl

end

variable [PatternEngine] {selection : Selection} {clauses clauses' : List Clause}

/-! ### Clauses with the same answers -/

/-- **Narrowing the members of a dataset is a matter of what the clauses say of each of
them** and of how they narrow it. -/
theorem toOption_narrowMembers_congr {members : List Node}
    (hholds : ∀ m ∈ members,
      (Clause.allHold m clauses).toOption = (Clause.allHold m clauses').toOption)
    (hnarrow : ∀ m ∈ members,
      (m.narrow selection clauses).toOption = (m.narrow selection clauses').toOption) :
    (narrowMembers selection clauses members).toOption =
      (narrowMembers selection clauses' members).toOption := by
  induction members with
  | nil => rfl
  | cons m members ih =>
    obtain ⟨hm, hholds⟩ := List.forall_mem_cons.1 hholds
    obtain ⟨hm', hnarrow⟩ := List.forall_mem_cons.1 hnarrow
    rw [narrowMembers, narrowMembers]
    refine toOption_bind_congr hm fun holds => ?_
    split
    · exact toOption_bind_congr hm' fun m' =>
        toOption_bind_congr (ih hholds hnarrow) fun members' => rfl
    · exact ih hholds hnarrow

/-- So is narrowing what a field holds, if clauses lead into it or none do on both sides. -/
theorem Content.toOption_narrow_congr {content : Content} (hnil : clauses = [] ↔ clauses' = [])
    (hholds : ∀ m ∈ content.related,
      (Clause.allHold m clauses).toOption = (Clause.allHold m clauses').toOption)
    (hnarrow : ∀ m ∈ content.related,
      (m.narrow selection clauses).toOption = (m.narrow selection clauses').toOption) :
    (content.narrow selection clauses).toOption =
      (content.narrow selection clauses').toOption := by
  cases content with
  | scalar s => rfl
  | array items => rfl
  | node m =>
    rw [narrow_node, narrow_node]
    exact toOption_map_congr _ (hnarrow m List.mem_cons_self)
  | dataset members =>
    by_cases hnone : clauses = []
    · rw [hnil.1 hnone, hnone]
    · rw [narrow_dataset hnone, narrow_dataset (hnil.not.1 hnone)]
      exact toOption_map_congr _ (toOption_narrowMembers_congr hholds hnarrow)

/-- **Narrowing a node is a matter of how its fields are narrowed,** if some clause goes on
below them or none does on both sides. -/
theorem Node.toOption_narrow_congr {n : Node}
    (hdescend : (clauses.any fun c => c.descend?.isSome) =
      clauses'.any fun c => c.descend?.isSome)
    (h : ∀ entry ∈ n.fields,
      (entry.2.content.narrow selection (Clause.under entry.2.name clauses)).toOption =
        (entry.2.content.narrow selection (Clause.under entry.2.name clauses')).toOption) :
    (n.narrow selection clauses).toOption = (n.narrow selection clauses').toOption := by
  obtain ⟨fields⟩ := n
  rw [narrow, narrow, hdescend]
  split
  · rw [narrowFields_eq_mapM, narrowFields_eq_mapM]
    have hfields := toOption_mapM_congr fun (entry : String × Field) hentry =>
      toOption_map_congr (entry.2.name, ·)
        (toOption_map_congr (Field.mk entry.2.name) (h entry hentry))
    exact toOption_bind_congr hfields fun _ => rfl
  · rfl

/-- Selecting is a matter of what the clauses say of each node. -/
theorem toOption_selectNodes_congr {nodes : List Node}
    (hholds : ∀ n ∈ nodes,
      (Clause.allHold n clauses).toOption = (Clause.allHold n clauses').toOption) :
    (selectNodes selection clauses nodes).toOption =
      (selectNodes selection clauses' nodes).toOption := by
  induction nodes with
  | nil => rfl
  | cons n nodes ih =>
    obtain ⟨hn, hholds⟩ := List.forall_mem_cons.1 hholds
    rw [selectNodes, selectNodes]
    exact toOption_bind_congr hn fun holds => toOption_bind_congr (ih hholds) fun nodes' => rfl

/-- **Clauses that agree on the nodes of a dataset, and narrow them alike, select alike,**
cascading or not. -/
theorem Dataset.toOption_select_congr {d : Dataset} (hnil : clauses = [] ↔ clauses' = [])
    (hholds : ∀ n ∈ d.nodes,
      (Clause.allHold n clauses).toOption = (Clause.allHold n clauses').toOption)
    (hnarrow : ∀ n ∈ d.nodes,
      (n.narrow selection clauses).toOption = (n.narrow selection clauses').toOption) :
    (d.select selection clauses).toOption = (d.select selection clauses').toOption := by
  by_cases hnone : clauses = []
  · rw [hnil.1 hnone, hnone]
  · have hnone' : clauses' ≠ [] := hnil.not.1 hnone
    rw [select, select, List.isEmpty_eq_false_iff.2 hnone, List.isEmpty_eq_false_iff.2 hnone',
      if_neg Bool.false_ne_true, if_neg Bool.false_ne_true]
    split
    · exact toOption_map_congr _ (toOption_narrowMembers_congr hholds hnarrow)
    · exact toOption_map_congr _ (toOption_selectNodes_congr hholds)

/-! ### Clauses in another order -/

namespace Clause

/-- Whether all clauses hold does not depend on their order, where none of them fails. -/
theorem allHold_perm (h : clauses.Perm clauses') {n : Node} {holds : Bool} :
    allHold n clauses = .ok holds ↔ allHold n clauses' = .ok holds := by
  rw [allHold_eq_ok_iff, allHold_eq_ok_iff, h.all_eq]
  simp only [h.mem_iff]

/-- Clauses lead on below a field in any order. -/
theorem under_perm (h : clauses.Perm clauses') (name : String) :
    (under name clauses).Perm (under name clauses') :=
  h.filterMap _

end Clause

/-- **What a node is narrowed to does not depend on the order of the clauses.**  At
every level the clauses that lead on are regrouped, which keeps them the same up to
their order. -/
theorem Node.toOption_narrow_perm {n : Node} (h : clauses.Perm clauses') :
    (n.narrow selection clauses).toOption = (n.narrow selection clauses').toOption := by
  induction n using Node.induction generalizing clauses clauses' with
  | step n ih =>
    refine toOption_narrow_congr h.any_eq ?_
    rintro ⟨name, field⟩ hentry
    have hunder := Clause.under_perm h field.name
    refine Content.toOption_narrow_congr ?_ (fun m _ => ?_) fun m hm =>
      ih name field hentry m hm hunder
    · exact ⟨fun hnil => (hnil ▸ hunder).nil_eq.symm, fun hnil => (hnil ▸ hunder).eq_nil⟩
    · exact toOption_eq_iff.2 fun _ => Clause.allHold_perm hunder

end RecordQuery

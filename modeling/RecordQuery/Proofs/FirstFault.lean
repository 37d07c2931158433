/-
# Scans and their first fault

The clauses of a query, the nodes of a dataset, the keys of a query and the
members that a path fans out over are evaluated one after the other, and none is
skipped because an earlier one has settled the answer.  A scan therefore
succeeds if every single evaluation does, and otherwise fails as the first one
that fails (`FirstFault`).

All these scans are `List.mapM` followed by a function of its results, so what
they have in common is proved once, in `mapM_eq_error_iff` and `mapM_eq_ok_iff`.
-/

import Mathlib.Data.List.Forall2
import RecordQuery.Dataset.Select

namespace RecordQuery

variable {α β γ ε : Type}

/-! ### Steps that succeed and steps that fail -/

/-- A step succeeds if it has a result. -/
theorem isOk_iff {r : Except ε α} : r.isOk ↔ ∃ a, r = .ok a := by
  cases r <;> simp [Except.toBool]

/-- A step that does not succeed has a fault. -/
theorem not_isOk_iff {r : Except ε α} : ¬r.isOk ↔ ∃ e, r = .error e := by
  cases r <;> simp [Except.toBool]

/-- Two steps succeed together if the first one does and the next one does with its result. -/
theorem bind_eq_ok_iff {r : Except ε α} {next : α → Except ε β} {b : β} :
    r >>= next = .ok b ↔ ∃ a, r = .ok a ∧ next a = .ok b := by
  cases r <;> simp [bind, Except.bind]

/-- Two steps fail as the first one does, or else as the next one does with its result. -/
theorem bind_eq_error_iff {r : Except ε α} {next : α → Except ε β} {e : ε} :
    r >>= next = .error e ↔ r = .error e ∨ ∃ a, r = .ok a ∧ next a = .error e := by
  cases r <;> simp [bind, Except.bind]

/-- A step followed by a function gives what the function makes of its result. -/
theorem map_eq_ok_iff {f : α → β} {r : Except ε α} {b : β} :
    r.map f = .ok b ↔ ∃ a, r = .ok a ∧ f a = b := by
  cases r <;> simp [Except.map]

/-- A function of the result leaves the faults of a step as they are. -/
theorem map_eq_error_iff {f : α → β} {r : Except ε α} {e : ε} :
    r.map f = .error e ↔ r = .error e := by
  cases r <;> simp [Except.map]

/-- A function of the result leaves it open whether a step succeeds. -/
@[simp]
theorem isOk_map {f : α → β} {r : Except ε α} : (r.map f).isOk = r.isOk := by
  cases r <;> rfl

/-! ### The first fault of a list -/

/-- `e` is the fault of the first member of a list that a test fails on. -/
def FirstFault (test : α → Except ε β) (as : List α) (e : ε) : Prop :=
  ∃ before a after, as = before ++ a :: after ∧ (∀ b ∈ before, (test b).isOk) ∧
    test a = .error e

/-- In the empty list there is nothing to fail on. -/
theorem not_firstFault_nil {test : α → Except ε β} {e : ε} : ¬FirstFault test [] e := by
  rintro ⟨before, a, after, h, -⟩
  simp at h

/-- The first fault of a list is that of its first member, or of the others if that one passes. -/
theorem firstFault_cons {test : α → Except ε β} {a : α} {as : List α} {e : ε} :
    FirstFault test (a :: as) e ↔
      test a = .error e ∨ (test a).isOk ∧ FirstFault test as e := by
  constructor
  · rintro ⟨_ | ⟨b, before⟩, c, after, h, hbefore, hc⟩
    · obtain ⟨rfl, -⟩ := List.cons.inj h
      exact .inl hc
    · obtain ⟨rfl, rfl⟩ := List.cons.inj h
      exact .inr ⟨hbefore a List.mem_cons_self,
        before, c, after, rfl, fun b hb => hbefore b (List.mem_cons_of_mem _ hb), hc⟩
  · rintro (h | ⟨ha, before, c, after, rfl, hbefore, hc⟩)
    · exact ⟨[], a, as, rfl, by simp, h⟩
    · refine ⟨a :: before, c, after, rfl, fun b hb => ?_, hc⟩
      rcases List.mem_cons.1 hb with rfl | hb
      · exact ha
      · exact hbefore b hb

/-- **A scan fails as its first failing test does.** -/
theorem mapM_eq_error_iff {test : α → Except ε β} {as : List α} {e : ε} :
    as.mapM test = .error e ↔ FirstFault test as e := by
  induction as with
  | nil => exact iff_of_false (by simp [pure, Except.pure]) not_firstFault_nil
  | cons a as ih =>
    rw [List.mapM_cons, firstFault_cons, bind_eq_error_iff, isOk_iff]
    refine or_congr_right ⟨?_, ?_⟩
    · rintro ⟨b, hb, h⟩
      rcases bind_eq_error_iff.1 h with h | ⟨bs, -, h⟩
      · exact ⟨⟨b, hb⟩, ih.1 h⟩
      · simp [pure, Except.pure] at h
    · rintro ⟨⟨b, hb⟩, h⟩
      exact ⟨b, hb, bind_eq_error_iff.2 (.inl (ih.2 h))⟩

/-- **A scan that succeeds has tested every member,** and gives the results in
order. -/
theorem mapM_eq_ok_iff {test : α → Except ε β} {as : List α} {bs : List β} :
    as.mapM test = .ok bs ↔ List.Forall₂ (fun a b => test a = .ok b) as bs := by
  induction as generalizing bs with
  | nil => simp [pure, Except.pure, eq_comm]
  | cons a as ih =>
    rw [List.mapM_cons, bind_eq_ok_iff, List.forall₂_cons_left_iff]
    constructor
    · rintro ⟨b, hb, h⟩
      obtain ⟨cs, hcs, h⟩ := bind_eq_ok_iff.1 h
      exact ⟨b, cs, hb, ih.1 hcs, (Except.ok.inj h).symm⟩
    · rintro ⟨b, cs, hb, hcs, rfl⟩
      exact ⟨b, hb, bind_eq_ok_iff.2 ⟨cs, ih.2 hcs, rfl⟩⟩

/-- In two lists that correspond one by one, every member of the second comes from one of the
first. -/
theorem exists_mem_of_forall₂ {R : α → β → Prop} {as : List α} {bs : List β}
    (h : List.Forall₂ R as bs) {b : β} (hb : b ∈ bs) : ∃ a ∈ as, R a b := by
  induction h with
  | nil => exact absurd hb List.not_mem_nil
  | @cons a b' as bs hab _ ih =>
    rcases List.mem_cons.1 hb with rfl | hb
    · exact ⟨a, List.mem_cons_self, hab⟩
    · obtain ⟨a', ha', h⟩ := ih hb
      exact ⟨a', List.mem_cons_of_mem _ ha', h⟩

/-- A list has one counterpart only under a relation that leaves no choice for any of its
members. -/
theorem forall₂_unique {R : α → β → Prop} {as : List α} {bs bs' : List β}
    (hR : ∀ a ∈ as, ∀ b b', R a b → R a b' → b = b') (h : List.Forall₂ R as bs)
    (h' : List.Forall₂ R as bs') : bs = bs' := by
  induction h generalizing bs' with
  | nil =>
    cases h'
    rfl
  | cons hab _ ih =>
    obtain ⟨hfirst, hrest⟩ := List.forall_mem_cons.1 hR
    cases h' with
    | cons hab' h' => exact congrArg₂ List.cons (hfirst _ _ hab hab') (ih hrest h')

/-- A function that undoes the relation member by member leads back to the first list. -/
theorem map_eq_of_forall₂ {R : α → β → Prop} {f : β → α} {as : List α} {bs : List β}
    (hf : ∀ a ∈ as, ∀ b, R a b → f b = a) (h : List.Forall₂ R as bs) : bs.map f = as := by
  induction h with
  | nil => rfl
  | cons hab _ ih =>
    obtain ⟨hfirst, hrest⟩ := List.forall_mem_cons.1 hf
    exact congrArg₂ List.cons (hfirst _ hab) (ih hrest)

/-- A scan succeeds if every single test does. -/
theorem isOk_mapM_iff {test : α → Except ε β} {as : List α} :
    (as.mapM test).isOk ↔ ∀ a ∈ as, (test a).isOk := by
  induction as with
  | nil => simp [pure, Except.pure, Except.toBool]
  | cons a as ih =>
    rw [List.mapM_cons, List.forall_mem_cons, ← ih, isOk_iff, isOk_iff, isOk_iff]
    simp [bind_eq_ok_iff, pure, Except.pure]

/-- A scan that is followed by a constant gives it exactly if every single test succeeds. -/
theorem map_mapM_eq_ok_iff {test : α → Except ε β} {as : List α} {c d : γ} :
    ((as.mapM test).map fun _ => c) = .ok d ↔ (∀ a ∈ as, (test a).isOk) ∧ d = c := by
  rw [map_eq_ok_iff, ← isOk_mapM_iff, isOk_iff, exists_and_right, eq_comm]

/-! ### The scans of a query -/

/-- **Fanning out is a scan of all members,** with an answer read off afterwards. -/
theorem KeyPath.anyMember_eq (test : α → Except LookupError Bool) (as : List α) :
    KeyPath.anyMember test as =
      (as.mapM test).map fun _ => as.any fun a => test a = .ok true := by
  induction as with
  | nil => rfl
  | cons a as ih =>
    rw [KeyPath.anyMember, List.mapM_cons, ih]
    cases ha : test a <;> cases as.mapM test <;>
      simp [bind, Except.bind, pure, Except.pure, Except.map, ha]

/-- **Fanning out fails as the first failing member does.** -/
theorem KeyPath.anyMember_eq_error_iff {test : α → Except LookupError Bool} {as : List α}
    {e : LookupError} : KeyPath.anyMember test as = .error e ↔ FirstFault test as e := by
  rw [KeyPath.anyMember_eq, map_eq_error_iff, mapM_eq_error_iff]

/-- Fanning out succeeds if the test does on every member, and holds if it holds of one. -/
theorem KeyPath.anyMember_eq_ok_iff {test : α → Except LookupError Bool} {as : List α}
    {b : Bool} : KeyPath.anyMember test as = .ok b ↔
      (∀ a ∈ as, (test a).isOk) ∧ b = as.any fun a => test a = .ok true := by
  rw [KeyPath.anyMember_eq, map_mapM_eq_ok_iff]

variable [PatternEngine]

/-- **A conjunction is a scan of all clauses,** with an answer read off afterwards. -/
theorem Clause.allHold_eq (n : Node) (clauses : List Clause) :
    Clause.allHold n clauses =
      (clauses.mapM (Clause.holds · n)).map fun _ => clauses.all fun c => c.holds n = .ok true := by
  induction clauses with
  | nil => rfl
  | cons c clauses ih =>
    rw [Clause.allHold, List.mapM_cons, ih]
    cases hc : c.holds n <;> cases clauses.mapM (Clause.holds · n) <;>
      simp [bind, Except.bind, pure, Except.pure, Except.map, hc]

/-- **A conjunction fails as its first failing clause does.** -/
theorem Clause.allHold_eq_error_iff {n : Node} {clauses : List Clause} {e : LookupError} :
    Clause.allHold n clauses = .error e ↔ FirstFault (Clause.holds · n) clauses e := by
  rw [Clause.allHold_eq, map_eq_error_iff, mapM_eq_error_iff]

/-- A conjunction succeeds if every clause does, and holds if all of them hold. -/
theorem Clause.allHold_eq_ok_iff {n : Node} {clauses : List Clause} {b : Bool} :
    Clause.allHold n clauses = .ok b ↔
      (∀ c ∈ clauses, (c.holds n).isOk) ∧ b = clauses.all fun c => c.holds n = .ok true := by
  rw [Clause.allHold_eq, map_mapM_eq_ok_iff]

/-- A conjunction succeeds if every clause does. -/
theorem Clause.isOk_allHold_iff {n : Node} {clauses : List Clause} :
    (Clause.allHold n clauses).isOk ↔ ∀ c ∈ clauses, (c.holds n).isOk := by
  simp [isOk_iff (r := Clause.allHold n clauses), Clause.allHold_eq_ok_iff]

/-- Whether a selection keeps a node; a node on which a clause fails is never
kept. -/
def Selection.selects (selection : Selection) (clauses : List Clause) (n : Node) : Bool :=
  (Clause.allHold n clauses).map selection.keeps = .ok true

/-- A node on which all clauses succeed is kept if the selection keeps their answer. -/
theorem Selection.selects_eq {selection : Selection} {clauses : List Clause} {n : Node}
    {holds : Bool} (h : Clause.allHold n clauses = .ok holds) :
    selection.selects clauses n = selection.keeps holds := by
  simp [selects, h, Except.map]

/-- **A selection is a scan of all nodes,** with the kept ones picked out afterwards. -/
theorem selectNodes_eq (selection : Selection) (clauses : List Clause) (nodes : List Node) :
    selectNodes selection clauses nodes =
      (nodes.mapM (Clause.allHold · clauses)).map fun _ =>
        nodes.filter (selection.selects clauses) := by
  induction nodes with
  | nil => rfl
  | cons n nodes ih =>
    rw [selectNodes, List.mapM_cons, ih]
    cases hn : Clause.allHold n clauses with
    | error e => rfl
    | ok holds =>
      cases nodes.mapM (Clause.allHold · clauses) with
      | error e => rfl
      | ok _ =>
        cases hk : selection.keeps holds <;>
          simp [bind, Except.bind, pure, Except.pure, Except.map, Selection.selects, hn, hk]

/-- **A selection fails as its first failing node does.** -/
theorem selectNodes_eq_error_iff {selection : Selection} {clauses : List Clause}
    {nodes : List Node} {e : LookupError} :
    selectNodes selection clauses nodes = .error e ↔
      FirstFault (Clause.allHold · clauses) nodes e := by
  rw [selectNodes_eq, map_eq_error_iff, mapM_eq_error_iff]

/-- A selection succeeds if all clauses do on every node, and keeps those that it selects. -/
theorem selectNodes_eq_ok_iff {selection : Selection} {clauses : List Clause}
    {nodes kept : List Node} :
    selectNodes selection clauses nodes = .ok kept ↔
      (∀ n ∈ nodes, (Clause.allHold n clauses).isOk) ∧
        kept = nodes.filter (selection.selects clauses) := by
  rw [selectNodes_eq, map_mapM_eq_ok_iff]

end RecordQuery

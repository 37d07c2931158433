/-
# Clauses on narrowed nodes

What narrowing gives has fewer nested nodes than what was judged before.  Asked of the
result, a clause finds places among those that it found before, none of them at fault: a
path that ends on a dataset can be evaluated only if that is empty already, so no dataset
that is emptied becomes an empty array at the end of a path (`KeyPath.eq_of_arrive`).  So a
clause that did not hold does not hold now (`Clause.holds_of_narrow`).

One that held may hold no longer.  Two clauses that lead into one dataset may each hold of a
node by a different member, and then neither member is kept.  If no two clauses lead into the
same field (`Clause.Apart`), each clause alone decides which members are kept, so one that it
holds of remains (`Clause.holds_of_narrow_matching`).
-/

import RecordQuery.Proofs.Conjunction
import RecordQuery.Proofs.Projection

namespace RecordQuery

section

variable [PatternEngine] {selection : Selection} {clauses : List Clause} {n n' : Node}

/-! ### One clause on a narrowed node -/

/-- Where a path ends without fault, nothing is narrowed. -/
theorem KeyPath.eq_of_arrive {path : KeyPath} {pattern : Option Pattern} {operand : Operand}
    {content content' : Content} {b : Bool} (harrive : path.arrive pattern operand content = .ok b)
    (h : content.narrow selection clauses = .ok content') : content' = content := by
  rcases Content.cases_of_narrow h with ⟨heq, -⟩ | ⟨n, n', rfl, -⟩ |
    ⟨members, members', rfl, rfl, hmembers⟩
  · exact heq
  · cases harrive
  · cases members with
    | nil => rw [← Except.ok.inj hmembers]
    | cons m members => cases harrive

namespace Clause

variable {c : Clause} {b : Bool}

/-- A clause without a rest looks at one field. -/
theorem holds_of_descend?_eq_none (h : c.descend? = none) (n : Node) :
    c.holds n = n.get c.head >>= fun field => c.path.arrive c.pattern c.operand field.content := by
  obtain ⟨⟨key, head, _ | ⟨next, rest⟩, lookup⟩, operand, pattern⟩ := c
  · rfl
  · cases h

/-- **What a clause finds on a narrowed node.**  Its own field is the same if it ends
there; otherwise what remains of it is asked of the nodes of that field, narrowed by all
clauses that lead there. -/
theorem cases_of_narrow (hn : n.Named) (h : n.narrow selection clauses = .ok n')
    (hholds : c.holds n = .ok b) : (c.descend? = none ∧ c.holds n' = .ok b) ∨
    ∃ (c' : Clause) (field field' : Field), c.descend? = some c' ∧ n.get? c.head = some field ∧
      field.content.narrow selection (under c.head clauses) = .ok field'.content ∧
        KeyPath.anyMember c'.holds field.related = .ok b ∧
          ∀ b', c.holds n' = .ok b' ↔ KeyPath.anyMember c'.holds field'.related = .ok b' := by
  cases hdescend : c.descend? with
  | none =>
    rw [holds_of_descend?_eq_none hdescend, bind_eq_ok_iff] at hholds
    obtain ⟨field, hget, harrive⟩ := hholds
    obtain ⟨field', hget', hcontent⟩ := hn.exists_get?_of_narrow h (Node.get_eq_ok_iff.1 hget)
    have hsame : field'.content = field.content := KeyPath.eq_of_arrive harrive hcontent
    refine .inl ⟨rfl, ?_⟩
    rw [holds_of_descend?_eq_none hdescend, bind_eq_ok_iff]
    exact ⟨field', Node.get_eq_ok_iff.2 hget', by rwa [hsame]⟩
  | some c' =>
    obtain ⟨field, hget, hr⟩ : n.HasRelated c.head := hasRelated_of_holds hdescend hholds
    obtain ⟨field', hget', hcontent⟩ := hn.exists_get?_of_narrow h hget
    have hr' : field'.isRelated := (Content.isRelated_of_narrow hcontent).trans hr
    refine .inr ⟨c', field, field', rfl, hget, hcontent, ?_, ?_⟩
    · exact (holds_eq_ok_iff hdescend hget hr).1 hholds
    · exact fun b' => holds_eq_ok_iff hdescend hget' hr'

/-- **Narrowing makes no clause fail and makes none hold.**  The induction is on the node,
and the clauses that it is narrowed by need not be those that are asked. -/
theorem holds_of_narrow (hn : n.Named) (h : n.narrow selection clauses = .ok n')
    (hholds : c.holds n = .ok b) : ∃ b', c.holds n' = .ok b' ∧ (b' = true → b = true) := by
  induction n using Node.induction generalizing clauses n' c b with
  | step n ih =>
    rcases cases_of_narrow hn h hholds with ⟨-, hholds'⟩ |
      ⟨c', field, field', -, hget, hcontent, hany, hiff⟩
    · exact ⟨b, hholds', id⟩
    · obtain ⟨hok, rfl⟩ := KeyPath.anyMember_eq_ok_iff.1 hany
      have hmem : (c.head, field) ∈ n.fields := Entries.mem_of_get? hget
      have hbelow : ∀ child' ∈ field'.related, ∃ child ∈ field.related, ∃ b',
          c'.holds child' = .ok b' ∧ (b' = true → c'.holds child = .ok true) := by
        intro child' hchild'
        obtain ⟨child, hchild, hnarrow⟩ := Content.exists_of_narrow hcontent hchild'
        obtain ⟨first, hfirst⟩ := isOk_iff.1 (hok child hchild)
        obtain ⟨b', hb', hle⟩ :=
          ih _ _ hmem child hchild (hn.of_related hget hchild) hnarrow hfirst
        exact ⟨child, hchild, b', hb', fun htrue => by rw [hfirst, hle htrue]⟩
      refine ⟨_, (hiff _).2 (KeyPath.anyMember_eq_ok_iff.2 ⟨fun child' hchild' => ?_, rfl⟩), ?_⟩
      · obtain ⟨-, -, b', hb', -⟩ := hbelow child' hchild'
        exact isOk_iff.2 ⟨b', hb'⟩
      · intro htrue
        obtain ⟨child', hchild', hholds'⟩ := List.any_eq_true.1 htrue
        obtain ⟨child, hchild, b', hb', hle⟩ := hbelow child' hchild'
        have hb'true : b' = true := Except.ok.inj (hb'.symm.trans (of_decide_eq_true hholds'))
        exact List.any_eq_true.2 ⟨child, hchild, decide_eq_true (hle hb'true)⟩

/-- A conjunction of clauses neither fails nor holds for the first time either. -/
theorem allHold_of_narrow {asked : List Clause} (hn : n.Named)
    (h : n.narrow selection clauses = .ok n') (hholds : allHold n asked = .ok b) :
    ∃ b', allHold n' asked = .ok b' ∧ (b' = true → b = true) := by
  obtain ⟨hok, rfl⟩ := allHold_eq_ok_iff.1 hholds
  have heach : ∀ c ∈ asked, ∃ b', c.holds n' = .ok b' ∧ (b' = true → c.holds n = .ok true) := by
    intro c hc
    obtain ⟨b, hb⟩ := isOk_iff.1 (hok c hc)
    obtain ⟨b', hb', hle⟩ := holds_of_narrow hn h hb
    exact ⟨b', hb', fun htrue => by rw [hb, hle htrue]⟩
  refine ⟨_, allHold_eq_ok_iff.2 ⟨fun c hc => ?_, rfl⟩, fun htrue => ?_⟩
  · obtain ⟨b', hb', -⟩ := heach c hc
    exact isOk_iff.2 ⟨b', hb'⟩
  · refine List.all_eq_true.2 fun c hc => ?_
    obtain ⟨b', hb', hle⟩ := heach c hc
    have hholds' : c.holds n' = .ok true := of_decide_eq_true (List.all_eq_true.1 htrue c hc)
    exact decide_eq_true (hle (Except.ok.inj (hb'.symm.trans hholds')))

/-! ### Clauses that lead into fields of their own -/

/-- No two clauses that go on after their first field have the same one. -/
def Apart (clauses : List Clause) : Prop :=
  clauses.Pairwise fun c c' => c.path.rest ≠ [] → c'.path.rest ≠ [] → c.head ≠ c'.head

/-- A clause that goes on has segments left. -/
theorem rest_ne_nil_of_descend? {c' : Clause} (h : c.descend? = some c') : c.path.rest ≠ [] := by
  rw [(descend?_eq_some h).1]
  exact List.cons_ne_nil _ _

/-- Into one field there leads at most one of them. -/
theorem Apart.pairwise_under (h : Apart clauses) (name : String) :
    (under name clauses).Pairwise fun _ _ => False := by
  rw [under, List.pairwise_filterMap]
  refine h.imp fun {c c'} hne first hfirst second hsecond => ?_
  obtain ⟨hname, hdescend⟩ := Option.ite_none_right_eq_some.1 hfirst
  obtain ⟨hname', hdescend'⟩ := Option.ite_none_right_eq_some.1 hsecond
  exact hne (rest_ne_nil_of_descend? hdescend) (rest_ne_nil_of_descend? hdescend')
    (hname.trans hname'.symm)

/-- What remains of clauses that are apart is apart. -/
theorem Apart.under (h : Apart clauses) (name : String) : Apart (under name clauses) :=
  (h.pairwise_under name).imp False.elim

/-- Below the first field of one of them nothing but its own rest is asked. -/
theorem Apart.under_eq_singleton (h : Apart clauses) (hc : c ∈ clauses) {c' : Clause}
    (hdescend : c.descend? = some c') : Clause.under c.head clauses = [c'] := by
  have hmem : c' ∈ Clause.under c.head clauses := mem_under.2 ⟨c, hc, rfl, hdescend⟩
  have hone := h.pairwise_under c.head
  match hunder : Clause.under c.head clauses, hmem, hone with
  | [only], hmem, _ => rw [List.mem_singleton.1 hmem]
  | first :: second :: _, _, hone =>
    exact (List.rel_of_pairwise_cons hone List.mem_cons_self).elim

/-- A node that clauses keep is among the narrowed ones. -/
theorem exists_narrowed_of_selects {content content' : Content}
    (h : content.narrow selection clauses = .ok content') {child : Node}
    (hchild : child ∈ content.related) (hselects : selection.selects clauses child) :
    ∃ child' ∈ content'.related, child.narrow selection clauses = .ok child' := by
  rcases Content.cases_of_narrow h with ⟨rfl, rfl | hvalue⟩ | ⟨n, n', rfl, rfl, hn⟩ |
    ⟨members, members', rfl, rfl, hmembers⟩
  · exact ⟨child, hchild, child.narrow_nil⟩
  · rw [hvalue] at hchild
    exact absurd hchild List.not_mem_nil
  · obtain rfl := List.mem_singleton.1 hchild
    exact ⟨n', List.mem_singleton.2 rfl, hn⟩
  · obtain ⟨-, hforall⟩ := narrowMembers_eq_ok_iff.1 hmembers
    exact exists_mem_of_forall₂ hforall.flip (List.mem_filter.2 ⟨hchild, hselects⟩)

/-- **Clauses that lead into fields of their own still hold where they held.**  A member
that the rest of one of them holds of is kept, since no other clause is asked of it, and
by induction the rest holds of it when it is narrowed. -/
theorem holds_of_narrow_matching (hn : n.Named) (hapart : Apart clauses)
    (h : n.narrow .matching clauses = .ok n') (hholds : ∀ c ∈ clauses, c.holds n = .ok true) :
    ∀ c ∈ clauses, c.holds n' = .ok true := by
  induction n using Node.induction generalizing clauses n' with
  | step n ih =>
    intro c hc
    obtain ⟨b', hb', -⟩ := holds_of_narrow hn h (hholds c hc)
    rcases cases_of_narrow hn h (hholds c hc) with ⟨-, hholds'⟩ |
      ⟨c', field, field', hdescend, hget, hcontent, hany, hiff⟩
    · exact hholds'
    · obtain ⟨-, htrue⟩ := KeyPath.anyMember_eq_ok_iff.1 hany
      obtain ⟨child, hchild, hone⟩ := List.any_eq_true.1 htrue.symm
      have hone : ∀ c ∈ [c'], c.holds child = .ok true :=
        List.forall_mem_singleton.2 (of_decide_eq_true hone)
      rw [hapart.under_eq_singleton hc hdescend] at hcontent
      obtain ⟨child', hchild', hnarrow⟩ := exists_narrowed_of_selects hcontent hchild
        (Dataset.selects_matching_iff.2 hone)
      have hkept : ∀ c ∈ [c'], c.holds child' = .ok true :=
        ih _ _ (Entries.mem_of_get? hget) child hchild (hn.of_related hget hchild)
          (List.pairwise_singleton _ _) hnarrow hone
      obtain ⟨-, rfl⟩ := KeyPath.anyMember_eq_ok_iff.1 ((hiff b').1 hb')
      have hfound : (field'.related.any fun m => c'.holds m = .ok true) = true :=
        List.any_eq_true.2 ⟨child', hchild',
          decide_eq_true (hkept c' (List.mem_singleton.2 rfl))⟩
      rw [hb', hfound]

end Clause

end

end RecordQuery

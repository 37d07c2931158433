/-
# A range and its two bounds

A value lies in a range if it is at least the lower bound and at most the upper one, so
`range` and the pair of `gte` and `lte` ought to ask the same.  Of one value they do
(`Op.conjoins_eval_range`), faults included, if `range` comes to look at both bounds.  It
stops at a value below the lower bound, and then does not learn whether the value has an
order with the upper one (`Scalar.StopsBelow`).

Of a node they do not ask the same.  A key holds of a node if it holds somewhere, so a node
with one value above the range and one below it passes both bounds and has nothing in the
range.  What is left is that the clauses fail together (`Clause.AskBounds.isOk_holds_iff`),
that everything in the range is within the bounds (`Clause.AskBounds.holds_of_holds`), and
that the two are the same, and narrow a node in the same way, where the path leads to one
place (`Clause.AskBounds.conjoins_holds`, `Node.Indexed.toOption_narrow_eq`).
-/

import RecordQuery.Proofs.NarrowingCongruence
import RecordQuery.Proofs.Projection
import RecordQuery.Proofs.ScalarOrder

namespace RecordQuery

/-- A scalar below the lower bound of a range that has no order with the upper one. -/
def Scalar.StopsBelow (s low high : Scalar) : Prop :=
  s.compare? low = some .lt ∧ s.compare? high = none

/-- One result is the conjunction of two others: it is there if both are, and then it is
true if both are. -/
def Conjoins (both first second : Except LookupError Bool) : Prop :=
  ∀ b, both = .ok b ↔ ∃ b₁ b₂, first = .ok b₁ ∧ second = .ok b₂ ∧ b = (b₁ && b₂)

namespace Conjoins

variable {both first second : Except LookupError Bool}

/-- A conjunction is there just if both of its parts are. -/
theorem isOk_iff (h : Conjoins both first second) :
    both.isOk ↔ first.isOk ∧ second.isOk := by
  simp only [RecordQuery.isOk_iff, h _]
  constructor
  · rintro ⟨b, b₁, b₂, h₁, h₂, -⟩
    exact ⟨⟨b₁, h₁⟩, b₂, h₂⟩
  · rintro ⟨⟨b₁, h₁⟩, b₂, h₂⟩
    exact ⟨_, b₁, b₂, h₁, h₂, rfl⟩

/-- It is true just if both of its parts are. -/
theorem eq_true_iff (h : Conjoins both first second) :
    both = .ok true ↔ first = .ok true ∧ second = .ok true := by
  rw [h]
  constructor
  · rintro ⟨b₁, b₂, h₁, h₂, hand⟩
    obtain ⟨rfl, rfl⟩ := (Bool.and_eq_true_iff ..).1 hand.symm
    exact ⟨h₁, h₂⟩
  · rintro ⟨h₁, h₂⟩
    exact ⟨true, true, h₁, h₂, rfl⟩

/-- A fault is the conjunction of a fault and anything. -/
theorem error (e e₁ : LookupError) (second : Except LookupError Bool) :
    Conjoins (.error e) (.error e₁) second := by
  simp [Conjoins]

/-- Two answers have a conjunction. -/
theorem ok (b₁ b₂ : Bool) : Conjoins (.ok (b₁ && b₂)) (.ok b₁) (.ok b₂) := by
  simp [Conjoins, eq_comm]

/-- A fault is the conjunction of anything and a fault. -/
theorem error_right (e e₂ : LookupError) (first : Except LookupError Bool) :
    Conjoins (.error e) first (.error e₂) := by
  simp [Conjoins]

end Conjoins

/-! ### One value -/

section

variable [PatternEngine]

namespace Op

/-- **`range` compares with the lower bound,** and with the upper one unless the value is
below the range. -/
theorem eval_range (s low high : Scalar) :
    range.eval (.scalar s) (.list [low, high]) =
      (s.compare? low).elim (.error (.typeMismatch range.name s.type low.type)) fun o =>
        if o = .lt then .ok false
        else (s.compare? high).elim (.error (.typeMismatch range.name s.type high.type))
          fun o => .ok (Relation.atMost.fits o) := by
  simp only [eval, evalWith, evalRange, needScalar, ordered, bind, Except.bind]
  cases s.compare? low with
  | none => rfl
  | some o =>
    cases o with
    | lt => rfl
    | eq => cases s.compare? high <;> rfl
    | gt => cases s.compare? high <;> rfl

variable {s low high : Scalar}

/-- **`range` fails for the types of its operands if one of its bounds does,** if it comes to
look at both. -/
theorem eval_range_mismatch_iff (h : ¬s.StopsBelow low high) :
    (∃ left right, range.eval (.scalar s) (.list [low, high]) =
        .error (.typeMismatch "range" left right)) ↔
      (∃ left right, (order .atLeast).eval (.scalar s) (.scalar low) =
        .error (.typeMismatch "gte" left right)) ∨
      ∃ left right, (order .atMost).eval (.scalar s) (.scalar high) =
        .error (.typeMismatch "lte" left right) := by
  rw [eval_range, eval_order, eval_order]
  cases hlow : s.compare? low with
  | none => simp [name]
  | some o =>
    cases hhigh : s.compare? high with
    | none =>
      have hne : o ≠ .lt := fun ho => h ⟨ho ▸ hlow, hhigh⟩
      simp [hne, name]
    | some o' => by_cases ho : o = .lt <;> simp [ho]

/-- **`range` is the conjunction of its bounds,** if it comes to look at both. -/
theorem conjoins_eval_range (h : ¬s.StopsBelow low high) :
    Conjoins (range.eval (.scalar s) (.list [low, high]))
      ((order .atLeast).eval (.scalar s) (.scalar low))
      ((order .atMost).eval (.scalar s) (.scalar high)) := by
  rw [eval_range, eval_order, eval_order]
  cases hlow : s.compare? low with
  | none => exact .error _ _ _
  | some o =>
    cases hhigh : s.compare? high with
    | none =>
      have hne : o ≠ .lt := fun ho => h ⟨ho ▸ hlow, hhigh⟩
      rw [Option.elim_some, if_neg hne]
      exact .error_right _ _ _
    | some o' =>
      by_cases ho : o = .lt
      · subst ho
        exact .ok false _
      · have hfits : Relation.atLeast.fits o = true := bne_iff_ne.2 ho
        rw [Option.elim_some, Option.elim_some, Option.elim_some, if_neg ho, hfits]
        exact .ok true _

end Op

end

/-! ### All values that a path leads to -/

namespace Conjoins

variable {α : Type} {both first second : α → Except LookupError Bool} {as : List α}

/-- A conjunction can be evaluated everywhere if both of its parts can. -/
theorem isOk_anyMember_iff (h : ∀ a ∈ as, Conjoins (both a) (first a) (second a)) :
    (KeyPath.anyMember both as).isOk ↔
      (KeyPath.anyMember first as).isOk ∧ (KeyPath.anyMember second as).isOk := by
  have hanyMember : ∀ test : α → Except LookupError Bool,
      (KeyPath.anyMember test as).isOk ↔ ∀ a ∈ as, (test a).isOk := fun test => by
    rw [KeyPath.anyMember_eq, isOk_map, isOk_mapM_iff]
  rw [hanyMember, hanyMember, hanyMember, ← forall₂_and]
  exact forall₂_congr fun a ha => (h a ha).isOk_iff

/-- **A conjunction that holds at some place holds there in both parts.**  The converse is
not true: the parts may hold at different places. -/
theorem anyMember_of_eq_true (h : ∀ a ∈ as, Conjoins (both a) (first a) (second a))
    (hboth : KeyPath.anyMember both as = .ok true) :
    KeyPath.anyMember first as = .ok true ∧ KeyPath.anyMember second as = .ok true := by
  obtain ⟨hok, htrue⟩ := KeyPath.anyMember_eq_ok_iff.1 hboth
  obtain ⟨a, ha, hholds⟩ := List.any_eq_true.1 htrue.symm
  obtain ⟨hfirst, hsecond⟩ := (h a ha).eq_true_iff.1 (of_decide_eq_true hholds)
  refine ⟨KeyPath.anyMember_eq_ok_iff.2 ⟨fun b hb => ?_, ?_⟩,
    KeyPath.anyMember_eq_ok_iff.2 ⟨fun b hb => ?_, ?_⟩⟩
  · exact ((h b hb).isOk_iff.1 (hok b hb)).1
  · exact (List.any_eq_true.2 ⟨a, ha, decide_eq_true hfirst⟩).symm
  · exact ((h b hb).isOk_iff.1 (hok b hb)).2
  · exact (List.any_eq_true.2 ⟨a, ha, decide_eq_true hsecond⟩).symm

/-- **At one place a conjunction is a conjunction.** -/
theorem anyMember (hsingle : as.length ≤ 1)
    (h : ∀ a ∈ as, Conjoins (both a) (first a) (second a)) :
    Conjoins (KeyPath.anyMember both as) (KeyPath.anyMember first as)
      (KeyPath.anyMember second as) := by
  match as with
  | [] => exact .ok false false
  | [a] =>
    rw [KeyPath.anyMember_singleton, KeyPath.anyMember_singleton, KeyPath.anyMember_singleton]
    exact h a List.mem_cons_self
  | _ :: _ :: _ => simp at hsingle

end Conjoins

/-- The places that a list of names leads to from a node. -/
def Node.placesAlong : List String → Node → List Place
  | [], _ => []
  | name :: names, n => KeyPath.placesFrom name names n

/-- No value that the names lead to stops a range below its lower bound. -/
def Node.Finishes (names : List String) (low high : Scalar) (n : Node) : Prop :=
  ∀ s, .value (.scalar s) ∈ n.placesAlong names → ¬s.StopsBelow low high

/-- The places beyond a field are those of its nodes. -/
theorem Node.placesAlong_cons {n : Node} {name next : String} {rest : List String}
    {field : Field} (h : n.get? name = some field) (hr : field.isRelated) :
    n.placesAlong (name :: next :: rest) = field.related.flatMap (placesAlong (next :: rest)) :=
  KeyPath.placesFrom_cons h hr

section

variable [PatternEngine]

namespace Clause

/-- A clause that asks a built-in lookup along some names. -/
structure Asks (c : Clause) (names : List String) (op : Op) (operand : Operand) : Prop where
  segments_eq : c.path.segments = names
  lookup_eq : c.path.lookup = .builtin op
  operand_eq : c.operand = operand
  pattern_eq : c.pattern = none

variable {c c₁ c₂ : Clause} {names : List String} {op : Op} {operand : Operand}
  {low high : Scalar} {n : Node}

/-- Such a clause asks its lookup at every place along its names. -/
theorem Asks.holds_eq (h : c.Asks names op operand) (n : Node) :
    c.holds n = KeyPath.anyMember
      (Place.outcome c.path fun v => (Lookup.builtin op).applyWith none v operand)
        (n.placesAlong names) := by
  obtain ⟨rfl, hlookup, rfl, hpattern⟩ := h
  rw [holds, KeyPath.resolveWith, KeyPath.follow_eq_anyMember, hpattern, hlookup]
  rfl

/-- What a clause asks of the nodes of a field. -/
theorem Asks.under_eq (h : c.Asks names op operand) (name : String) :
    (∃ next rest c', names = name :: next :: rest ∧ under name [c] = [c'] ∧
      c'.Asks (next :: rest) op operand) ∨
    ((∀ next rest, names ≠ name :: next :: rest) ∧ under name [c] = []) := by
  obtain ⟨rfl, hlookup, hoperand, hpattern⟩ := h
  by_cases hhead : c.head = name
  · have hunder : under name [c] = c.descend?.toList := by
      rw [under, List.filterMap_cons, if_pos hhead]
      cases c.descend? <;> rfl
    cases hdescend : c.descend? with
    | none =>
      refine .inr ⟨fun next rest hsegments => ?_, by rw [hunder, hdescend]; rfl⟩
      obtain ⟨-, hrest⟩ := List.cons.inj hsegments
      rw [descend?, KeyPath.tail?, hrest] at hdescend
      cases hdescend
    | some c' =>
      obtain ⟨hrest, hlookup', hoperand', hpattern'⟩ := descend?_eq_some hdescend
      refine .inl ⟨c'.path.head, c'.path.rest, c', ?_, by rw [hunder, hdescend]; rfl, rfl,
        hlookup'.trans hlookup, hoperand'.trans hoperand, hpattern'.trans hpattern⟩
      rw [KeyPath.segments, hrest, ← hhead]
      rfl
  · refine .inr ⟨fun next rest hsegments => hhead (List.cons.inj hsegments).1, ?_⟩
    rw [under, List.filterMap_cons, if_neg hhead]
    rfl

/-- A clause that asks for a range and two that ask for its bounds, along the same names. -/
structure AskBounds (names : List String) (low high : Scalar) (c c₁ c₂ : Clause) : Prop where
  between : c.Asks names .range (.list [low, high])
  above : c₁.Asks names (.order .atLeast) (.scalar low)
  below : c₂.Asks names (.order .atMost) (.scalar high)

/-- What the clauses ask of the nodes of a field: again a range and its bounds, or all of
them nothing. -/
theorem AskBounds.under_eq (h : AskBounds names low high c c₁ c₂) (name : String) :
    (∃ next rest c' c₁' c₂', names = name :: next :: rest ∧ under name [c] = [c'] ∧
      under name [c₁, c₂] = [c₁', c₂'] ∧ AskBounds (next :: rest) low high c' c₁' c₂') ∨
    (under name [c] = [] ∧ under name [c₁, c₂] = []) := by
  have happend : under name [c₁, c₂] = under name [c₁] ++ under name [c₂] :=
    List.filterMap_append (l := [c₁])
  rw [happend]
  rcases h.between.under_eq name with ⟨next, rest, c', rfl, hc, hc'⟩ | ⟨hnone, hc⟩
  · rcases h.above.under_eq name with ⟨_, _, c₁', ⟨⟩, hc₁, hc₁'⟩ | ⟨hnone, -⟩
    · rcases h.below.under_eq name with ⟨_, _, c₂', ⟨⟩, hc₂, hc₂'⟩ | ⟨hnone, -⟩
      · exact .inl ⟨next, rest, c', c₁', c₂', rfl, hc, by rw [hc₁, hc₂]; rfl, hc', hc₁', hc₂'⟩
      · exact absurd rfl (hnone next rest)
    · exact absurd rfl (hnone next rest)
  · rcases h.above.under_eq name with ⟨next, rest, -, hnames, -⟩ | ⟨-, hc₁⟩
    · exact absurd hnames (hnone next rest)
    · rcases h.below.under_eq name with ⟨next, rest, -, hnames, -⟩ | ⟨-, hc₂⟩
      · exact absurd hnames (hnone next rest)
      · exact .inr ⟨hc, by rw [hc₁, hc₂]; rfl⟩

/-- At a place that is at fault for all three lookups nothing is to be shown, and at a value
it is the lookups that decide. -/
theorem AskBounds.conjoins_outcome (h : AskBounds names low high c c₁ c₂) {place : Place}
    (hplace : ∀ s, place = .value (.scalar s) → ¬s.StopsBelow low high) :
    Conjoins
      (place.outcome c.path fun v => (Lookup.builtin .range).applyWith none v (.list [low, high]))
      (place.outcome c₁.path fun v =>
        (Lookup.builtin (.order .atLeast)).applyWith none v (.scalar low))
      (place.outcome c₂.path fun v =>
        (Lookup.builtin (.order .atMost)).applyWith none v (.scalar high)) := by
  cases place with
  | value v =>
    cases v with
    | scalar s => exact Op.conjoins_eval_range (hplace s rfl)
    | array items => exact .error _ _ _
  | emptyDataset =>
    rw [Place.outcome, Place.outcome, h.between.lookup_eq, h.above.lookup_eq]
    exact .error _ _ _
  | _ => exact .error _ _ _

end Clause

namespace Clause.AskBounds

variable {names : List String} {low high : Scalar} {c c₁ c₂ : Clause} {n : Node}
  (h : AskBounds names low high c c₁ c₂) (hn : n.Finishes names low high)
include h hn

/-- At every place the range is the conjunction of its bounds. -/
theorem conjoins_places : ∀ place ∈ n.placesAlong names, Conjoins
    (place.outcome c.path fun v => (Lookup.builtin .range).applyWith none v (.list [low, high]))
    (place.outcome c₁.path fun v =>
      (Lookup.builtin (.order .atLeast)).applyWith none v (.scalar low))
    (place.outcome c₂.path fun v =>
      (Lookup.builtin (.order .atMost)).applyWith none v (.scalar high)) :=
  fun _ hplace => h.conjoins_outcome fun s hs => hn s (hs ▸ hplace)

/-- **A range can be asked of a node if both bounds can.** -/
theorem isOk_holds_iff : (c.holds n).isOk ↔ (c₁.holds n).isOk ∧ (c₂.holds n).isOk := by
  rw [h.between.holds_eq, h.above.holds_eq, h.below.holds_eq]
  exact Conjoins.isOk_anyMember_iff (h.conjoins_places hn)

/-- **A node with something in a range has something within each bound.** -/
theorem holds_of_holds (hc : c.holds n = .ok true) :
    c₁.holds n = .ok true ∧ c₂.holds n = .ok true := by
  rw [h.between.holds_eq] at hc
  rw [h.above.holds_eq, h.below.holds_eq]
  exact Conjoins.anyMember_of_eq_true (h.conjoins_places hn) hc

/-- **Where the names lead to one place, the range is the conjunction of its bounds.** -/
theorem conjoins_holds (hsingle : (n.placesAlong names).length ≤ 1) :
    Conjoins (c.holds n) (c₁.holds n) (c₂.holds n) := by
  rw [h.between.holds_eq, h.above.holds_eq, h.below.holds_eq]
  exact .anyMember hsingle (h.conjoins_places hn)

/-- So the range and the pair of its bounds say the same there. -/
theorem toOption_allHold_eq (hsingle : (n.placesAlong names).length ≤ 1) :
    (Clause.allHold n [c]).toOption = (Clause.allHold n [c₁, c₂]).toOption := by
  rw [toOption_eq_iff]
  intro b
  rw [Clause.allHold_singleton, h.conjoins_holds hn hsingle]
  cases h₁ : c₁.holds n <;> cases h₂ : c₂.holds n <;>
    simp [Clause.allHold, h₁, h₂, bind, Except.bind, pure, Except.pure, eq_comm]

end Clause.AskBounds

/-! ### Narrowing alike -/

/-- A clause along some names goes on below the first field just if there are more of them. -/
theorem Clause.Asks.isSome_descend? {c : Clause} {names : List String} {op : Op}
    {operand : Operand} (h : c.Asks names op operand) :
    c.descend?.isSome = decide (1 < names.length) := by
  obtain ⟨⟨key, head, _ | ⟨next, rest⟩, lookup⟩, operand, pattern⟩ := c
  · rw [← h.segments_eq]
    rfl
  · rw [← h.segments_eq]
    simp [descend?, KeyPath.tail?, KeyPath.segments]

/-- **A range narrows a node as its bounds do,** if the names lead to one place from it.  The
induction is on the node, and the names get shorter with every field that it enters. -/
theorem Node.Indexed.toOption_narrow_eq {n : Node} (hn : n.Indexed) {names : List String}
    {low high : Scalar} {c c₁ c₂ : Clause} (h : Clause.AskBounds names low high c c₁ c₂)
    (hfinishes : n.Finishes names low high) (hsingle : (n.placesAlong names).length ≤ 1)
    (selection : Selection) :
    (n.narrow selection [c]).toOption = (n.narrow selection [c₁, c₂]).toOption := by
  induction n using Node.induction generalizing names c c₁ c₂ with
  | step n ih =>
    refine toOption_narrow_congr ?_ ?_
    · simp [h.between.isSome_descend?, h.above.isSome_descend?, h.below.isSome_descend?]
    rintro ⟨name, field⟩ hentry
    have hget : n.get? name = some field := hn.distinct.get?_of_mem hentry
    obtain rfl : field.name = name := hn.named.name_eq hget
    rcases h.under_eq field.name with ⟨next, rest, c', c₁', c₂', rfl, hc, hc₁₂, h'⟩ | ⟨hc, hc₁₂⟩
    · rw [hc, hc₁₂]
      have hplaces : ∀ m ∈ field.related, (m.placesAlong (next :: rest)).Sublist
          (n.placesAlong (field.name :: next :: rest)) := by
        intro m hm
        rw [placesAlong_cons hget (Field.isRelated_of_mem hm)]
        simpa using (List.singleton_sublist.2 hm).flatMap (placesAlong (next :: rest))
      have hfinishes' : ∀ m ∈ field.related, m.Finishes (next :: rest) low high :=
        fun m hm s hs => hfinishes s ((hplaces m hm).subset hs)
      have hsingle' : ∀ m ∈ field.related, (m.placesAlong (next :: rest)).length ≤ 1 :=
        fun m hm => (hplaces m hm).length_le.trans hsingle
      exact Content.toOption_narrow_congr (iff_of_false (List.cons_ne_nil _ _)
          (List.cons_ne_nil _ _))
        (fun m hm => h'.toOption_allHold_eq (hfinishes' m hm) (hsingle' m hm))
        fun m hm => ih field.name field hentry m hm (hn.of_related hget hm) h'
          (hfinishes' m hm) (hsingle' m hm)
    · rw [hc, hc₁₂]

end

end RecordQuery

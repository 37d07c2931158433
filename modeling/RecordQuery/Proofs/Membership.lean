/-
# Membership lookups are relations between two sets

The items of an array and those of an operand are compared as sets: `contains` asks whether
the second are all among the first (`CaseRule.Among`), `contained_by` asks the converse, and
`overlap` whether there is an item of the one among the other (`CaseRule.Meets`).  What
counts is equality of scalars and not which scalars they are.  It is the same in both
directions (`CaseRule.same_comm`), and that is all that the laws of these lookups need.  It
is not reflexive: what is not a number is among no items, not even among those of its own
array.
-/

import RecordQuery.Proofs.FirstFault
import RecordQuery.Proofs.ScalarOrder

namespace RecordQuery

/-! ### Equality goes both ways -/

/-- Which of two numbers is asked makes no difference. -/
theorem Number.same_comm (a b : Number) : a.same b = b.same a := by
  have hswap := Number.compare?_swap a b
  rw [Number.same, Number.same, hswap]
  cases a.compare? b with
  | none => rfl
  | some o => cases o <;> rfl

/-- Nor does it for two scalars. -/
theorem Scalar.same_comm (a b : Scalar) : a.same b = b.same a := by
  cases a with
  | null => cases b <;> rfl
  | number m =>
    cases b with
    | number n => exact Number.same_comm m n
    | _ => rfl
  | bool b' =>
    cases b with
    | bool c' => exact Bool.beq_comm
    | _ => rfl
  | string s =>
    cases b with
    | string t => exact Bool.beq_comm
    | _ => rfl

/-- A scalar of the type of strings is a string. -/
theorem Scalar.type_eq_string_iff {s : Scalar} : s.type = .string ↔ ∃ text, s = .string text := by
  cases s <;> simp [Scalar.type]

namespace CaseRule

/-- **Equality goes both ways** under either case rule. -/
theorem same_comm (rule : CaseRule) (a b : Scalar) : rule.same a b = rule.same b a := by
  cases rule with
  | sensitive => exact Scalar.same_comm a b
  | insensitive => exact Scalar.same_comm a.foldCase b.foldCase

/-! ### The two relations -/

/-- Each of some items has an equal one among others. -/
def Among (rule : CaseRule) (items others : List Scalar) : Prop :=
  ∀ s ∈ items, ∃ t ∈ others, rule.same t s

/-- Some item has an equal one among others. -/
def Meets (rule : CaseRule) (items others : List Scalar) : Prop :=
  ∃ s ∈ items, ∃ t ∈ others, rule.same t s

variable {rule : CaseRule} {items items' others others' : List Scalar}

instance : Decidable (rule.Among items others) :=
  inferInstanceAs (Decidable (∀ s ∈ items, ∃ t ∈ others, rule.same t s))

instance : Decidable (rule.Meets items others) :=
  inferInstanceAs (Decidable (∃ s ∈ items, ∃ t ∈ others, rule.same t s))

/-- Fewer items are still among others, and among more of them. -/
theorem Among.mono (h : rule.Among items others) (hitems : items' ⊆ items)
    (hothers : others ⊆ others') : rule.Among items' others' := by
  intro s hs
  obtain ⟨t, ht, hsame⟩ := h s (hitems hs)
  exact ⟨t, hothers ht, hsame⟩

/-- More items still meet others, and more of them. -/
theorem Meets.mono (h : rule.Meets items others) (hitems : items ⊆ items')
    (hothers : others ⊆ others') : rule.Meets items' others' := by
  obtain ⟨s, hs, t, ht, hsame⟩ := h
  exact ⟨s, hitems hs, t, hothers ht, hsame⟩

/-- **Which items there are is all that counts,** and not their order or how often each
stands there. -/
theorem among_congr (hitems : items ⊆ items') (hitems' : items' ⊆ items)
    (hothers : others ⊆ others') (hothers' : others' ⊆ others) :
    rule.Among items others ↔ rule.Among items' others' :=
  ⟨fun h => h.mono hitems' hothers, fun h => h.mono hitems hothers'⟩

/-- Nor does it count for meeting. -/
theorem meets_congr (hitems : items ⊆ items') (hitems' : items' ⊆ items)
    (hothers : others ⊆ others') (hothers' : others' ⊆ others) :
    rule.Meets items others ↔ rule.Meets items' others' :=
  ⟨fun h => h.mono hitems hothers, fun h => h.mono hitems' hothers'⟩

/-- Items that meet others are met by them. -/
theorem Meets.symm (h : rule.Meets items others) : rule.Meets others items := by
  obtain ⟨s, hs, t, ht, hsame⟩ := h
  rw [rule.same_comm] at hsame
  exact ⟨t, ht, s, hs, hsame⟩

/-- **Meeting goes both ways.** -/
theorem meets_comm : rule.Meets items others ↔ rule.Meets others items :=
  ⟨Meets.symm, Meets.symm⟩

/-- Items that are among others meet them, if there are any. -/
theorem Among.meets (h : rule.Among items others) (hne : items ≠ []) :
    rule.Meets items others := by
  obtain ⟨s, rest, rfl⟩ := List.exists_cons_of_ne_nil hne
  exact ⟨s, List.mem_cons_self, h s List.mem_cons_self⟩

/-- **Lists that are equal item by item are among each other.** -/
theorem among_of_isEqv (h : items.isEqv others rule.same) :
    rule.Among others items ∧ rule.Among items others := by
  induction items generalizing others with
  | nil =>
    cases others with
    | nil => exact ⟨fun _ hs => absurd hs List.not_mem_nil, fun _ hs => absurd hs List.not_mem_nil⟩
    | cons t others => cases h
  | cons s items ih =>
    cases others with
    | nil => cases h
    | cons t others =>
      rw [List.isEqv, Bool.and_eq_true] at h
      obtain ⟨hfirst, hrest⟩ := h
      obtain ⟨hothers, hitems⟩ := ih hrest
      constructor
      · refine List.forall_mem_cons.2 ⟨⟨s, List.mem_cons_self, hfirst⟩, ?_⟩
        exact hothers.mono (List.Subset.refl _) (List.subset_cons_self s items)
      · rw [rule.same_comm] at hfirst
        refine List.forall_mem_cons.2 ⟨⟨t, List.mem_cons_self, hfirst⟩, ?_⟩
        exact hitems.mono (List.Subset.refl _) (List.subset_cons_self t others)

end CaseRule

namespace Op

open CaseRule

variable {rule : CaseRule} {items wanted : List Scalar} {operand : Operand}

/-- What is computed for all items is whether they are among others. -/
theorem all_hasSame (items others : List Scalar) :
    items.all (hasSame rule others) = decide (rule.Among items others) := by
  rw [Bool.eq_iff_iff, decide_eq_true_iff, List.all_eq_true]
  simp only [hasSame, List.any_eq_true]
  rfl

/-- What is computed for any item is whether they meet others. -/
theorem any_hasSame (items others : List Scalar) :
    items.any (hasSame rule others) = decide (rule.Meets items others) := by
  rw [Bool.eq_iff_iff, decide_eq_true_iff, List.any_eq_true]
  simp only [hasSame, List.any_eq_true]
  rfl

/-! ### Lookups on arrays -/

/-- The lookups that compare an array with the items of an operand as sets. -/
def membershipLookups : List Op :=
  [contains .sensitive, contains .insensitive, containedBy, overlap]

section

variable [PatternEngine]

/-- An array contains items that are among its own. -/
theorem eval_contains_array (rule : CaseRule) (items : List Scalar) (operand : Operand) :
    (contains rule).eval (.array items) operand = .ok (rule.Among operand.items items) :=
  congrArg Except.ok (all_hasSame operand.items items)

/-- It is contained by items that its own are among. -/
theorem eval_containedBy_array (items : List Scalar) (operand : Operand) :
    containedBy.eval (.array items) operand = .ok (sensitive.Among items operand.items) :=
  congrArg Except.ok (all_hasSame items operand.items)

/-- It overlaps items that its own meet. -/
theorem eval_overlap_array (items : List Scalar) (operand : Operand) :
    overlap.eval (.array items) operand = .ok (sensitive.Meets items operand.items) := by
  have hmeets : overlap.eval (.array items) operand = .ok (sensitive.Meets operand.items items) :=
    congrArg Except.ok (any_hasSame operand.items items)
  rw [hmeets, Except.ok.injEq, decide_eq_decide]
  exact meets_comm

/-- A membership lookup depends on no more than which items there are. -/
theorem eval_membership_congr {op : Op} (hop : op ∈ membershipLookups)
    {items items' wanted wanted' : List Scalar} (hitems : items ⊆ items')
    (hitems' : items' ⊆ items) (hwanted : wanted ⊆ wanted') (hwanted' : wanted' ⊆ wanted) :
    op.eval (.array items) (.list wanted) = op.eval (.array items') (.list wanted') := by
  have hcontains : ∀ rule, (contains rule).eval (.array items) (.list wanted) =
      (contains rule).eval (.array items') (.list wanted') := by
    intro rule
    rw [eval_contains_array, eval_contains_array, Except.ok.injEq, decide_eq_decide]
    exact among_congr hwanted hwanted' hitems hitems'
  simp only [membershipLookups, List.mem_cons, List.not_mem_nil, or_false] at hop
  rcases hop with rfl | rfl | rfl | rfl
  · exact hcontains .sensitive
  · exact hcontains .insensitive
  · rw [eval_containedBy_array, eval_containedBy_array, Except.ok.injEq, decide_eq_decide]
    exact among_congr hitems hitems' hwanted hwanted'
  · rw [eval_overlap_array, eval_overlap_array, Except.ok.injEq, decide_eq_decide]
    exact meets_congr hitems hitems' hwanted hwanted'

/-- **The membership lookups are relations between two sets of scalars.**  On an array and
any operand, a scalar one being a list of one:

* none of them fails: `contains` holds if the items of the operand are all among those of
  the array, with either case rule, `contained_by` if it is the other way round, and
  `overlap` if some item of the array is among those of the operand;
* so `contains` is `contained_by` with array and operand exchanged, and `overlap` is itself
  with both exchanged;
* an array that equals a list contains it and is contained by it;
* an array with any items that is contained by a list overlaps it;
* neither the order of items nor how often each of them stands there counts. -/
theorem eval_membership (items wanted : List Scalar) :
    (∀ operand : Operand,
      (∀ rule, (contains rule).eval (.array items) operand =
        .ok (rule.Among operand.items items)) ∧
      containedBy.eval (.array items) operand = .ok (sensitive.Among items operand.items) ∧
      overlap.eval (.array items) operand = .ok (sensitive.Meets items operand.items)) ∧
    (contains .sensitive).eval (.array items) (.list wanted) =
      containedBy.eval (.array wanted) (.list items) ∧
    overlap.eval (.array items) (.list wanted) = overlap.eval (.array wanted) (.list items) ∧
    ((exact .sensitive).eval (.array items) (.list wanted) = .ok true →
      (contains .sensitive).eval (.array items) (.list wanted) = .ok true ∧
        containedBy.eval (.array items) (.list wanted) = .ok true) ∧
    (items ≠ [] → containedBy.eval (.array items) (.list wanted) = .ok true →
      overlap.eval (.array items) (.list wanted) = .ok true) ∧
    (∀ op ∈ membershipLookups, ∀ items' wanted' : List Scalar, items ⊆ items' → items' ⊆ items →
      wanted ⊆ wanted' → wanted' ⊆ wanted →
        op.eval (.array items) (.list wanted) = op.eval (.array items') (.list wanted')) ∧
    ∀ op ∈ membershipLookups, ∀ s : Scalar,
      op.eval (.array items) (.scalar s) = op.eval (.array items) (.list [s]) := by
  refine ⟨fun operand => ⟨fun rule => eval_contains_array rule items operand,
    eval_containedBy_array items operand, eval_overlap_array items operand⟩, ?_, ?_, ?_, ?_, ?_, ?_⟩
  · rw [eval_contains_array, eval_containedBy_array]
    rfl
  · rw [eval_overlap_array, eval_overlap_array, Except.ok.injEq, decide_eq_decide]
    exact meets_comm
  · intro hequal
    obtain ⟨hcontains, hcontained⟩ := among_of_isEqv (Except.ok.inj hequal)
    rw [eval_contains_array, eval_containedBy_array, Except.ok.injEq, Except.ok.injEq,
      decide_eq_true_iff, decide_eq_true_iff]
    exact ⟨hcontains, hcontained⟩
  · intro hne hcontained
    rw [eval_containedBy_array, Except.ok.injEq, decide_eq_true_iff] at hcontained
    rw [eval_overlap_array, Except.ok.injEq, decide_eq_true_iff]
    exact hcontained.meets hne
  · intro op hop items' wanted' hitems hitems' hwanted hwanted'
    exact eval_membership_congr hop hitems hitems' hwanted hwanted'
  · intro op hop s
    simp only [membershipLookups, List.mem_cons, List.not_mem_nil, or_false] at hop
    rcases hop with rfl | rfl | rfl | rfl <;> rfl

end

/-- One as an integer. -/
def one : Scalar := .number (.signed 1)

/-- One as a floating-point number. -/
def oneAsFloat : Scalar := .number (.float (.ofInt 1))

/-- What is not a number. -/
def notANumber : Scalar := .number (.float ⟨0x7FF8000000000000⟩)

/-- The hypotheses are satisfiable, by numbers in two storages.  What is not a number is not
contained by a list with the same items, in whatever order and however often they stand
there. -/
theorem eval_membership_mixed :
    ((exact .sensitive).eval (.array [one, .null]) (.list [oneAsFloat, .null]) = .ok true ∧
      (contains .sensitive).eval (.array [one, .null]) (.list [oneAsFloat, .null]) = .ok true) ∧
    ([one, .null] ≠ [] ∧
      containedBy.eval (.array [one, .null]) (.list [oneAsFloat, .null]) = .ok true ∧
      overlap.eval (.array [one, .null]) (.list [oneAsFloat, .null]) = .ok true) ∧
    (containedBy ∈ membershipLookups ∧ [one, notANumber] ⊆ [notANumber, one, notANumber] ∧
      [notANumber, one, notANumber] ⊆ [one, notANumber] ∧
      containedBy.eval (.array [one, notANumber]) (.list [one, notANumber]) = .ok false ∧
      containedBy.eval (.array [notANumber, one, notANumber]) (.list [one, notANumber]) =
        .ok false) := by
  have hequal : (exact .sensitive).eval (.array [one, .null]) (.list [oneAsFloat, .null]) =
      .ok true := by decide +kernel
  have hne : [one, .null] ≠ [] := List.cons_ne_nil _ _
  have hmem : containedBy ∈ membershipLookups := by decide
  have hfalse : containedBy.eval (.array [one, notANumber]) (.list [one, notANumber]) =
      .ok false := by decide +kernel
  have hmore : [one, notANumber] ⊆ [notANumber, one, notANumber] := by decide
  have hfewer : [notANumber, one, notANumber] ⊆ [one, notANumber] := by decide
  obtain ⟨-, -, -, hexact, hcontained, -⟩ := eval_membership [one, .null] [oneAsFloat, .null]
  obtain ⟨-, -, -, -, -, hsets, -⟩ := eval_membership [one, notANumber] [one, notANumber]
  have hsame := hsets containedBy hmem [notANumber, one, notANumber] [one, notANumber] hmore hfewer
    (List.Subset.refl _) (List.Subset.refl _)
  obtain ⟨hcontains, hamong⟩ := hexact hequal
  exact ⟨⟨hequal, hcontains⟩, ⟨hne, hamong, hcontained hne hamong⟩,
    hmem, hmore, hfewer, hfalse, hsame ▸ hfalse⟩

end Op
end RecordQuery

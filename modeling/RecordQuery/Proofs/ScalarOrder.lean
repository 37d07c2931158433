/-
# One order for all scalars of a kind

Strings stand in an order, booleans do, and numbers do unless one of them is not a
number; two scalars of different types do not, and null stands in none
(`Scalar.Comparable`).  The four order lookups ask for this order and for nothing else:
they all fail where there is none, and otherwise each reads its answer off the same
comparison (`Op.eval_order`).

Equality is decided apart from the order, by a function with cases of its own.  It agrees
with the order (`Scalar.Comparable.same_iff`), so exactly one of greater, equal and less
holds.  That the order is transitive comes from what scalars are compared by: strings by
their code points, booleans with false first, numbers by their exact values.
-/

import Mathlib.Order.Compare
import RecordQuery.Lookup.Eval
import RecordQuery.Proofs.ExactOrder

namespace RecordQuery
namespace Scalar

/-- Two scalars that stand in an order. -/
inductive Comparable : Scalar → Scalar → Prop where
  | strings (s t : String) : Comparable (.string s) (.string t)
  | bools (b c : Bool) : Comparable (.bool b) (.bool c)
  | numbers {m n : Number} : ¬m.isNaN → ¬n.isNaN → Comparable (.number m) (.number n)

/-- The code points of a string. -/
def codePoints (s : String) : List Nat := s.toList.map Char.toNat

variable {a b c : Scalar}

/-! ### Strings -/

/-- **Strings are compared by their code points,** from the first one on. -/
theorem compareText_eq_lt_iff (cs ds : List Char) :
    compareText cs ds = .lt ↔ cs.map Char.toNat < ds.map Char.toNat := by
  induction cs generalizing ds with
  | nil => cases ds <;> simp [compareText]
  | cons c cs ih =>
    cases ds with
    | nil => simp [compareText]
    | cons d ds =>
      rw [compareText, List.map_cons, List.map_cons, List.cons_lt_cons_iff]
      split
      · rename_i h
        exact iff_of_true rfl (.inl h)
      · rename_i h
        split
        · rename_i h'
          refine iff_of_false Ordering.noConfusion ?_
          omega
        · rename_i h'
          have heq : c.toNat = d.toNat := by omega
          rw [ih, heq]
          simp

/-- Strings neither of which comes first are the same. -/
theorem compareText_eq_eq_iff (cs ds : List Char) : compareText cs ds = .eq ↔ cs = ds := by
  induction cs generalizing ds with
  | nil => cases ds <;> simp [compareText]
  | cons c cs ih =>
    cases ds with
    | nil => simp [compareText]
    | cons d ds =>
      rw [compareText, List.cons.injEq, ← ih, ← Char.toNat_inj]
      split
      · rename_i h
        exact iff_of_false Ordering.noConfusion fun he => by omega
      · rename_i h
        split
        · exact iff_of_false Ordering.noConfusion fun he => by omega
        · have heq : c.toNat = d.toNat := by omega
          rw [and_iff_right heq]

/-- Two strings the other way round have the reverse order. -/
theorem compareText_swap (cs ds : List Char) :
    compareText ds cs = (compareText cs ds).swap := by
  induction cs generalizing ds with
  | nil => cases ds <;> rfl
  | cons c cs ih =>
    cases ds with
    | nil => rfl
    | cons d ds =>
      rw [compareText, compareText, ih]
      rcases lt_trichotomy c.toNat d.toNat with h | h | h
      · rw [if_neg h.not_gt, if_pos h, if_pos h]
        rfl
      · rw [if_neg h.not_gt, if_neg h.not_lt, if_neg h.not_lt, if_neg h.not_gt]
      · rw [if_pos h, if_neg h.not_gt, if_pos h]
        rfl

/-! ### The order -/

/-- Two strings are compared character by character. -/
theorem compare?_string (s t : String) :
    (string s).compare? (.string t) = some (compareText s.toList t.toList) := rfl

/-- Of two booleans false comes first. -/
theorem compare?_bool (b c : Bool) : (bool b).compare? (.bool c) = some (cmp b c) := by
  cases b <;> cases c <;> rfl

/-- Two numbers are compared as numbers are. -/
theorem compare?_number (m n : Number) : (number m).compare? (.number n) = m.compare? n := rfl

/-- **Two scalars have an order just if they are comparable.** -/
theorem isSome_compare?_iff : (a.compare? b).isSome ↔ a.Comparable b := by
  constructor
  · intro h
    cases a with
    | null => cases h
    | bool b' =>
      cases b with
      | bool c' => exact .bools b' c'
      | _ => cases h
    | string s =>
      cases b with
      | string t => exact .strings s t
      | _ => cases h
    | number m =>
      cases b with
      | number n =>
        have hne : m.compare? n ≠ none := Option.isSome_iff_ne_none.1 h
        rw [Ne, Number.compare?_eq_none_iff, not_or] at hne
        exact .numbers hne.1 hne.2
      | _ => cases h
  · intro h
    cases h with
    | strings s t => rfl
    | bools b' c' => rfl
    | @numbers m n hm hn =>
      rw [compare?_number, Option.isSome_iff_ne_none, Ne, Number.compare?_eq_none_iff, not_or]
      exact ⟨hm, hn⟩

/-- They have none just if they are not. -/
theorem compare?_eq_none_iff : a.compare? b = none ↔ ¬a.Comparable b := by
  rw [← isSome_compare?_iff, Option.not_isSome_iff_eq_none]

/-- Two scalars the other way round have the reverse order. -/
theorem compare?_swap (a b : Scalar) : b.compare? a = (a.compare? b).map .swap := by
  cases a with
  | null => cases b <;> rfl
  | bool b' =>
    cases b with
    | bool c' => cases b' <;> cases c' <;> rfl
    | _ => rfl
  | string s =>
    cases b with
    | string t => rw [compare?_string, compare?_string, Option.map_some, compareText_swap]
    | _ => rfl
  | number m =>
    cases b with
    | number n => exact Number.compare?_swap m n
    | _ => rfl

/-- **Equality and the order agree:** comparable scalars are equal just if neither comes
first. -/
theorem Comparable.same_iff (h : a.Comparable b) : a.same b ↔ a.compare? b = some .eq := by
  cases h with
  | strings s t =>
    rw [compare?_string, Option.some.injEq, compareText_eq_eq_iff, String.toList_inj]
    exact beq_iff_eq
  | bools b' c' =>
    rw [compare?_bool, Option.some.injEq, cmp_eq_eq_iff]
    exact beq_iff_eq
  | numbers _ _ => exact beq_iff_eq

/-- **The order is transitive,** whatever the storages of numbers. -/
theorem compare?_trans (hab : a.compare? b = some .lt) (hbc : b.compare? c = some .lt) :
    a.compare? c = some .lt := by
  have hab' : a.Comparable b := isSome_compare?_iff.1 (hab ▸ rfl)
  have hbc' : b.Comparable c := isSome_compare?_iff.1 (hbc ▸ rfl)
  cases hab' with
  | strings s t =>
    obtain ⟨_, u⟩ := hbc'
    rw [compare?_string, Option.some.injEq, compareText_eq_lt_iff] at hab hbc ⊢
    exact List.lt_trans hab hbc
  | bools b' c' =>
    obtain _ | ⟨_, d'⟩ := hbc'
    rw [compare?_bool, Option.some.injEq, cmp_eq_lt_iff] at hab hbc ⊢
    exact hab.trans hbc
  | numbers hm hn =>
    obtain _ | _ | ⟨_, hk⟩ := hbc'
    rw [compare?_number] at hab hbc ⊢
    rw [Number.Proper.compare?_eq ⟨_, hm⟩ ⟨_, hn⟩, Option.some.injEq, cmp_eq_lt_iff] at hab
    rw [Number.Proper.compare?_eq ⟨_, hn⟩ ⟨_, hk⟩, Option.some.injEq, cmp_eq_lt_iff] at hbc
    rw [Number.Proper.compare?_eq ⟨_, hm⟩ ⟨_, hk⟩, Option.some.injEq, cmp_eq_lt_iff]
    exact hab.trans hbc

end Scalar

/-! ### The order lookups -/

namespace Op

section

variable [PatternEngine]

/-- **An order lookup reads its answer off the order,** and fails where there is none. -/
theorem eval_order (relation : Relation) (a b : Scalar) :
    (order relation).eval (.scalar a) (.scalar b) =
      (a.compare? b).elim (.error (.typeMismatch (order relation).name a.type b.type))
        fun o => .ok (relation.fits o) := by
  have heval : (order relation).eval (.scalar a) (.scalar b) =
      ((order relation).ordered a b).map (order relation).fitsOrder := by
    simp only [eval, evalWith, evalOrder, needScalar, bind, Except.bind]
    cases (order relation).ordered a b <;> rfl
  rw [heval, ordered]
  cases a.compare? b <;> rfl

/-- An order lookup succeeds just if there is an order, and says what fits it. -/
theorem eval_order_eq_ok_iff {relation : Relation} {a b : Scalar} {holds : Bool} :
    (order relation).eval (.scalar a) (.scalar b) = .ok holds ↔
      ∃ o, a.compare? b = some o ∧ relation.fits o = holds := by
  rw [eval_order]
  cases a.compare? b <;> simp

/-- The lookup for equality says whether two scalars are equal. -/
theorem eval_exact (a b : Scalar) :
    (exact .sensitive).eval (.scalar a) (.scalar b) = .ok (a.same b) := rfl

/-- **The order lookups and equality describe one total order of the scalars of a kind.**

* On a value and an operand that are comparable all four order lookups succeed, and on any
  others they all fail with the types of both.
* Where they succeed, exactly one of greater, equal and less holds; at least is greater or
  equal, and at most is less or equal.
* Where they succeed, greater is less the other way round.
* Greater and less are transitive.
* Strings stand in the order of their code points. -/
theorem eval_order_total :
    (∀ a b : Scalar,
      (a.Comparable b ∧ ∀ relation, ((order relation).eval (.scalar a) (.scalar b)).isOk) ∨
      (¬a.Comparable b ∧ ∀ relation, (order relation).eval (.scalar a) (.scalar b) =
        .error (.typeMismatch (order relation).name a.type b.type))) ∧
    (∀ a b : Scalar, a.Comparable b → ∃ greater equal less : Bool,
      (order .greater).eval (.scalar a) (.scalar b) = .ok greater ∧
      (exact .sensitive).eval (.scalar a) (.scalar b) = .ok equal ∧
      (order .less).eval (.scalar a) (.scalar b) = .ok less ∧
      [greater, equal, less].count true = 1 ∧
      (order .atLeast).eval (.scalar a) (.scalar b) = .ok (greater || equal) ∧
      (order .atMost).eval (.scalar a) (.scalar b) = .ok (less || equal) ∧
      (order .less).eval (.scalar b) (.scalar a) = .ok greater) ∧
    (∀ a b c : Scalar, ∀ relation ∈ [Relation.greater, Relation.less],
      (order relation).eval (.scalar a) (.scalar b) = .ok true →
        (order relation).eval (.scalar b) (.scalar c) = .ok true →
          (order relation).eval (.scalar a) (.scalar c) = .ok true) ∧
    ∀ s t : String, (order .less).eval (.scalar (.string s)) (.scalar (.string t)) =
      .ok (Scalar.codePoints s < Scalar.codePoints t) := by
  refine ⟨fun a b => ?_, fun a b h => ?_, fun a b c relation hrelation hab hbc => ?_, fun s t => ?_⟩
  · by_cases h : a.Comparable b
    · obtain ⟨o, ho⟩ := Option.isSome_iff_exists.1 (Scalar.isSome_compare?_iff.2 h)
      exact .inl ⟨h, fun relation => by rw [eval_order, ho]; rfl⟩
    · have hnone := Scalar.compare?_eq_none_iff.2 h
      exact .inr ⟨h, fun relation => by rw [eval_order, hnone]; rfl⟩
  · obtain ⟨o, ho⟩ := Option.isSome_iff_exists.1 (Scalar.isSome_compare?_iff.2 h)
    have hswap : b.compare? a = some o.swap := by rw [Scalar.compare?_swap, ho]; rfl
    have hsame : a.same b = (o == .eq) := by
      rw [Bool.eq_iff_iff, h.same_iff, ho, Option.some.injEq, beq_iff_eq]
    simp only [eval_order, eval_exact, ho, hswap, hsame, Option.elim_some, Except.ok.injEq]
    exact ⟨_, _, _, rfl, rfl, rfl, by cases o <;> decide⟩
  · obtain ⟨o, ho, hfits⟩ := eval_order_eq_ok_iff.1 hab
    obtain ⟨o', ho', hfits'⟩ := eval_order_eq_ok_iff.1 hbc
    simp only [List.mem_cons, List.not_mem_nil, or_false] at hrelation
    rw [eval_order_eq_ok_iff]
    rcases hrelation with rfl | rfl
    · -- Greater is less the other way round.
      obtain rfl : o = .gt := beq_iff_eq.1 hfits
      obtain rfl : o' = .gt := beq_iff_eq.1 hfits'
      have hba : b.compare? a = some .lt := by rw [Scalar.compare?_swap, ho]; rfl
      have hcb : c.compare? b = some .lt := by rw [Scalar.compare?_swap, ho']; rfl
      have hca := Scalar.compare?_trans hcb hba
      exact ⟨.gt, by rw [Scalar.compare?_swap, hca]; rfl, rfl⟩
    · obtain rfl : o = .lt := beq_iff_eq.1 hfits
      obtain rfl : o' = .lt := beq_iff_eq.1 hfits'
      exact ⟨.lt, Scalar.compare?_trans ho ho', rfl⟩
  · have hless := Scalar.compareText_eq_lt_iff s.toList t.toList
    rw [eval_order, Scalar.compare?_string, Option.elim_some, Except.ok.injEq, Bool.eq_iff_iff,
      decide_eq_true_iff, Scalar.codePoints, Scalar.codePoints, ← hless, Relation.fits, beq_iff_eq]

end

/-- The integer `2^53 + 1`, which is no floating-point number. -/
def unrounded : Scalar := .number (.unsigned 9007199254740993)

/-- The number `2^53` as a floating-point number. -/
def rounded : Scalar := .number (.float (.ofInt 9007199254740992))

/-- The hypotheses are satisfiable, by numbers of three storages: an integer that would be
rounded to the number below it is greater than that number, and so than all below that. -/
theorem eval_order_total_unrounded :
    (unrounded.Comparable rounded ∧ ∃ greater equal less : Bool,
      (order .greater).eval (.scalar unrounded) (.scalar rounded) = .ok greater ∧
      (exact .sensitive).eval (.scalar unrounded) (.scalar rounded) = .ok equal ∧
      (order .less).eval (.scalar unrounded) (.scalar rounded) = .ok less ∧
      [greater, equal, less].count true = 1) ∧
    (order .greater).eval (.scalar unrounded) (.scalar rounded) = .ok true ∧
    (order .greater).eval (.scalar rounded) (.scalar (.number (.signed (-1)))) = .ok true ∧
    (order .greater).eval (.scalar unrounded) (.scalar (.number (.signed (-1)))) = .ok true := by
  have hcomparable : unrounded.Comparable rounded := .numbers (by decide) (by decide +kernel)
  have habove : (order .greater).eval (.scalar unrounded) (.scalar rounded) = .ok true := by
    decide +kernel
  have hpositive : (order .greater).eval (.scalar rounded) (.scalar (.number (.signed (-1)))) =
      .ok true := by decide +kernel
  obtain ⟨-, hone, htrans, -⟩ := eval_order_total
  obtain ⟨greater, equal, less, hgreater, hequal, hless, hcount, -⟩ := hone _ _ hcomparable
  exact ⟨⟨hcomparable, greater, equal, less, hgreater, hequal, hless, hcount⟩, habove, hpositive,
    htrans _ _ _ .greater List.mem_cons_self habove hpositive⟩

end Op
end RecordQuery

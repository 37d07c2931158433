/-
# No built-in lookup tells apart what means the same

A built-in lookup compares scalars with those of its operand, asks for their type, or
reads a string.  All this depends on what the scalars mean and not on how numbers are
stored, and so does which error is reported.  Of an array it asks the same of the items,
or their number.  So on values that mean the same every built-in lookup has the same
result (`Op.evalWith_congr`).
-/

import RecordQuery.Proofs.Meaning

namespace RecordQuery

/-! ### Scalars -/

namespace Number

variable {a b : Number}

/-- Comparing a number looks at its exact value only. -/
theorem compare?_congr (h : a.value? = b.value?) (c : Number) : a.compare? c = b.compare? c := by
  rw [compare?_eq_cmp, compare?_eq_cmp, h]

/-- So does asking whether it equals another. -/
theorem same_congr (h : a.value? = b.value?) (c : Number) : a.same c = b.same c := by
  rw [same, same, compare?_congr h]

/-- And so does asking whether another equals it. -/
theorem same_congr_right (h : a.value? = b.value?) (c : Number) : c.same a = c.same b := by
  rw [same, same, compare?_eq_cmp, compare?_eq_cmp, h]

end Number

namespace Scalar

variable {s t : Scalar}

/-- Scalars that mean the same differ in the storage of a number at most. -/
theorem cases_of_meaning_eq (h : s.meaning = t.meaning) :
    s = t ∨ ∃ a b, s = .number a ∧ t = .number b ∧ a.value? = b.value? := by
  cases s with
  | number a =>
    cases t with
    | number b => exact .inr ⟨a, b, rfl, rfl, ScalarMeaning.number.inj h⟩
    | _ => cases h
  | _ =>
    cases t <;> cases h
    exact .inl rfl

/-- Scalars that mean the same equal the same scalars. -/
theorem same_congr (h : s.meaning = t.meaning) (u : Scalar) : s.same u = t.same u := by
  rcases cases_of_meaning_eq h with rfl | ⟨a, b, rfl, rfl, hvalue⟩
  · rfl
  · cases u with
    | number c => exact Number.same_congr hvalue c
    | _ => rfl

/-- The same scalars equal them. -/
theorem same_congr_right (h : s.meaning = t.meaning) (u : Scalar) : u.same s = u.same t := by
  rcases cases_of_meaning_eq h with rfl | ⟨a, b, rfl, rfl, hvalue⟩
  · rfl
  · cases u with
    | number c => exact Number.same_congr_right hvalue c
    | _ => rfl

/-- They stand to others in the same order. -/
theorem compare?_congr (h : s.meaning = t.meaning) (u : Scalar) :
    s.compare? u = t.compare? u := by
  rcases cases_of_meaning_eq h with rfl | ⟨a, b, rfl, rfl, hvalue⟩
  · rfl
  · cases u with
    | number c => exact Number.compare?_congr hvalue c
    | _ => rfl

/-- Scalars that mean the same are of one type. -/
theorem type_congr (h : s.meaning = t.meaning) : s.type = t.type := by
  rcases cases_of_meaning_eq h with rfl | ⟨a, b, rfl, rfl, -⟩ <;> rfl

/-- Case is a matter of strings alone. -/
theorem meaning_foldCase_congr (h : s.meaning = t.meaning) :
    s.foldCase.meaning = t.foldCase.meaning := by
  rcases cases_of_meaning_eq h with rfl | ⟨a, b, rfl, rfl, -⟩
  · rfl
  · exact h

end Scalar

/-- Under either rule for case, scalars that mean the same are equal to the same ones. -/
theorem CaseRule.same_congr (rule : CaseRule) {s t : Scalar} (h : s.meaning = t.meaning)
    (u : Scalar) : rule.same s u = rule.same t u := by
  cases rule with
  | sensitive => exact Scalar.same_congr h u
  | insensitive => exact Scalar.same_congr (Scalar.meaning_foldCase_congr h) u.foldCase

/-! ### Lists of scalars -/

/-- Items that mean the same are treated alike by a function of the meaning. -/
theorem map_eq_of_map_eq {α β γ : Type} {f : α → β} {p : α → γ}
    (hp : ∀ a b, f a = f b → p a = p b) {as bs : List α} (h : as.map f = bs.map f) :
    as.map p = bs.map p := by
  induction as generalizing bs with
  | nil =>
    rw [List.map_nil, eq_comm, List.map_eq_nil_iff] at h
    rw [h]
  | cons a as ih =>
    cases bs with
    | nil => cases h
    | cons b bs =>
      obtain ⟨hhead, htail⟩ := List.cons.inj h
      rw [List.map_cons, List.map_cons, hp a b hhead, ih htail]

section

variable {items items' : List Scalar} (h : items.map Scalar.meaning = items'.map Scalar.meaning)
include h

/-- Some item of the one list is of a kind just if some item of the other is. -/
theorem any_congr {p : Scalar → Bool} (hp : ∀ s t, s.meaning = t.meaning → p s = p t) :
    items.any p = items'.any p := by
  have hmap := congrArg (List.any · id) (map_eq_of_map_eq hp h)
  simpa only [List.any_map, Function.id_comp] using hmap

/-- All items of the one list are of a kind just if all items of the other are. -/
theorem all_congr {p : Scalar → Bool} (hp : ∀ s t, s.meaning = t.meaning → p s = p t) :
    items.all p = items'.all p := by
  have hmap := congrArg (List.all · id) (map_eq_of_map_eq hp h)
  simpa only [List.all_map, Function.id_comp] using hmap

/-- The two lists are equal to the same lists. -/
theorem isEqv_congr {r : Scalar → Scalar → Bool}
    (hr : ∀ s t, s.meaning = t.meaning → ∀ u, r s u = r t u) (others : List Scalar) :
    items.isEqv others r = items'.isEqv others r := by
  induction items generalizing items' others with
  | nil =>
    rw [List.map_nil, eq_comm, List.map_eq_nil_iff] at h
    rw [h]
  | cons s items ih =>
    cases items' with
    | nil => cases h
    | cons t items' =>
      obtain ⟨hhead, htail⟩ := List.cons.inj h
      cases others with
      | nil => rfl
      | cons u others => rw [List.isEqv, List.isEqv, hr s t hhead, ih htail]

end

/-! ### Lookups -/

namespace Op

/-- Whether a list has a scalar depends on what its items mean. -/
theorem hasSame_congr (rule : CaseRule) {items items' : List Scalar}
    (h : items.map Scalar.meaning = items'.map Scalar.meaning) (s : Scalar) :
    hasSame rule items s = hasSame rule items' s :=
  any_congr h fun _ _ hst => rule.same_congr hst s

/-- It depends on what the scalar means. -/
theorem hasSame_congr_right (items : List Scalar) {s t : Scalar} (h : s.meaning = t.meaning) :
    hasSame .sensitive items s = hasSame .sensitive items t := by
  have hitem : ∀ item : Scalar, CaseRule.sensitive.same item s = CaseRule.sensitive.same item t :=
    fun item => Scalar.same_congr_right h item
  simp only [hasSame, hitem]

/-- So does whether a scalar is one of an operand. -/
theorem isOneOf_congr (operand : Operand) {s t : Scalar} (h : s.meaning = t.meaning) :
    isOneOf operand s = isOneOf operand t := by
  rcases Scalar.cases_of_meaning_eq h with rfl | ⟨a, b, rfl, rfl, -⟩
  · rfl
  · cases operand with
    | list items => exact hasSame_congr_right items h
    | scalar u => cases u <;> rfl

/-- So does how a scalar stands to another. -/
theorem ordered_congr (op : Op) {s t : Scalar} (h : s.meaning = t.meaning) (u : Scalar) :
    op.ordered s u = op.ordered t u := by
  rw [ordered, ordered, Scalar.compare?_congr h, Scalar.type_congr h]

section

variable [PatternEngine] {pattern : Option Pattern} {operand : Operand}

/-- **No lookup tells scalars apart that mean the same.**  Only equality, membership and
the orders look at a number at all. -/
theorem evalWith_scalar_congr (op : Op) {s t : Scalar} (h : s.meaning = t.meaning) :
    op.evalWith pattern (.scalar s) operand = op.evalWith pattern (.scalar t) operand := by
  rcases Scalar.cases_of_meaning_eq h with rfl | ⟨a, b, rfl, rfl, -⟩
  · rfl
  · cases op with
    | exact rule =>
      cases operand with
      | scalar u => exact congrArg Except.ok (rule.same_congr h u)
      | list items => rfl
    | oneOf =>
      cases operand with
      | list items => exact congrArg Except.ok (isOneOf_congr (.list items) h)
      | scalar u => cases u <;> rfl
    | order relation =>
      rw [evalWith, evalOrder, evalWith, evalOrder]
      simp only [needScalar, bind, Except.bind, ordered_congr _ h, Scalar.type_congr h]
    | range =>
      rw [evalWith, evalRange, evalWith, evalRange]
      simp only [needScalar, bind, Except.bind, ordered_congr _ h]
    | _ => rfl

/-- **No lookup tells arrays apart whose items mean the same.** -/
theorem evalWith_array_congr (op : Op) {items items' : List Scalar}
    (h : items.map Scalar.meaning = items'.map Scalar.meaning) :
    op.evalWith pattern (.array items) operand = op.evalWith pattern (.array items') operand := by
  have hlength : items.length = items'.length := by
    simpa only [List.length_map] using congrArg List.length h
  cases op with
  | exact rule =>
    cases operand with
    | scalar u => rfl
    | list others =>
      exact congrArg Except.ok (isEqv_congr h (fun _ _ hst => rule.same_congr hst) others)
  | contains rule =>
    rw [evalWith, evalContains, evalWith, evalContains, funext (hasSame_congr _ h)]
  | oneOf =>
    have hany := any_congr h fun _ _ hst => isOneOf_congr operand hst
    cases operand with
    | list others => exact congrArg Except.ok hany
    | scalar u =>
      cases u with
      | string text => exact congrArg Except.ok hany
      | _ => rfl
  | containedBy =>
    rw [evalWith, evalWith]
    simp only [needArray, bind, Except.bind,
      all_congr h fun _ _ hst => hasSame_congr_right operand.items hst]
  | overlap =>
    rw [evalWith, evalWith]
    simp only [needArray, bind, Except.bind, funext (hasSame_congr .sensitive h)]
  | length =>
    rw [evalWith, evalLength, evalWith, evalLength]
    simp only [needArray, bind, Except.bind, hlength]
  | _ => rfl

/-- **No lookup tells values apart that mean the same,** in its errors either. -/
theorem evalWith_congr (op : Op) {v w : Value} (h : v.meaning = w.meaning) :
    op.evalWith pattern v operand = op.evalWith pattern w operand := by
  cases v with
  | scalar s =>
    cases w with
    | scalar t => exact op.evalWith_scalar_congr (ValueMeaning.scalar.inj h)
    | array items => cases h
  | array items =>
    cases w with
    | scalar t => cases h
    | array items' => exact op.evalWith_array_congr (ValueMeaning.array.inj h)

end

end Op

/-- A built-in lookup tells no values apart that mean the same. -/
theorem Lookup.applyWith_congr [PatternEngine] {op : Op} (pattern : Option Pattern) {v w : Value}
    (h : v.meaning = w.meaning) (operand : Operand) :
    (builtin op).applyWith pattern v operand = (builtin op).applyWith pattern w operand := by
  have hshape : v.shape = w.shape := by
    cases v <;> cases w <;> first | rfl | simp [Value.meaning] at h
  simp only [applyWith, hshape, op.evalWith_congr h]

end RecordQuery

/-
# The lookup `in` is one relation

`in` asks of a value and a list what `overlap` asks, where a scalar counts as an array of one
(`Op.eval_oneOf_list`), and a string as an operand stands for the list of its characters
(`Op.isOneOf_string`).  So its three forms of an operand and two shapes of a value are one
relation (`Op.eval_oneOf_uniform`), and all that is left of them is that no other scalar can
be an operand.
-/

import RecordQuery.Proofs.Membership

namespace RecordQuery
namespace Op

open CaseRule

/-- A string as the list of its characters, each a string of its own. -/
def charactersOf (text : String) : List Scalar :=
  text.toList.map fun c => .string (String.singleton c)

/-- **A string as an operand is the list of its characters.**  A scalar is equal to one of
them just if it is a string of one character, and the text has this one. -/
theorem isOneOf_string (text : String) (s : Scalar) :
    isOneOf (.scalar (.string text)) s = hasSame .sensitive (charactersOf text) s := by
  have hany : hasSame .sensitive (charactersOf text) s =
      text.toList.any fun c => (Scalar.string (String.singleton c)).same s := List.any_map
  rw [hany]
  cases s with
  | string chars =>
    have hsame : ∀ c : Char, (Scalar.string (String.singleton c)).same (.string chars) =
        decide (chars.toList = [c]) := by
      intro c
      rw [Bool.eq_iff_iff, decide_eq_true_iff, Scalar.same, beq_iff_eq, ← String.toList_inj,
        String.toList_singleton, eq_comm]
    simp only [hsame, isOneOf, Scalar.string?, Option.map_some]
    match chars.toList with
    | [] => simp
    | [c] =>
      rw [Bool.eq_iff_iff, List.contains_iff_mem, List.any_eq_true]
      simp
    | _ :: _ :: _ => simp
  | _ => simp [isOneOf, Scalar.string?, Scalar.same]

/-- The items of a value; a scalar counts as an array of one. -/
def itemsOf : Value → List Scalar
  | .scalar s => [s]
  | .array items => items

section

variable [PatternEngine]

/-- **On a list `in` is `overlap`,** of a scalar too. -/
theorem eval_oneOf_list (value : Value) (wanted : List Scalar) :
    oneOf.eval value (.list wanted) = overlap.eval (.array (itemsOf value)) (.list wanted) := by
  have hany : oneOf.eval value (.list wanted) =
      .ok ((itemsOf value).any (hasSame .sensitive wanted)) := by
    cases value with
    | scalar s => exact congrArg Except.ok (Bool.or_false _).symm
    | array items => rfl
  rw [hany, any_hasSame, eval_overlap_array]
  rfl

/-- With a string, `in` asks for one of its characters. -/
theorem eval_oneOf_string (value : Value) (text : String) :
    oneOf.eval value (.scalar (.string text)) = oneOf.eval value (.list (charactersOf text)) := by
  have hmember : isOneOf (.scalar (.string text)) = isOneOf (.list (charactersOf text)) :=
    funext (isOneOf_string text)
  cases value with
  | scalar s => exact congrArg (fun member => Except.ok (member s)) hmember
  | array items => exact congrArg (fun member => Except.ok (items.any member)) hmember

/-- Any other scalar is refused, and nothing is looked at. -/
theorem eval_oneOf_scalar {s : Scalar} (hs : s.type ≠ .string) (value : Value) :
    oneOf.eval value (.scalar s) =
      .error (.invalidArgument oneOf.name (.expectedListOrString s.type)) := by
  cases s with
  | string text => exact absurd rfl hs
  | _ => rfl

/-- **Only the type of the operand can be at fault,** whatever the value. -/
theorem eval_oneOf_eq_error_iff {value : Value} {operand : Operand} {e : LookupError} :
    oneOf.eval value operand = .error e ↔ ∃ s : Scalar, operand = .scalar s ∧ s.type ≠ .string ∧
      e = .invalidArgument oneOf.name (.expectedListOrString s.type) := by
  have hlist : ∀ wanted, oneOf.eval value (.list wanted) ≠ .error e := by
    intro wanted h
    rw [eval_oneOf_list, eval_overlap_array] at h
    cases h
  cases operand with
  | list wanted => exact iff_of_false (hlist wanted) (by simp)
  | scalar s =>
    by_cases hs : s.type = .string
    · obtain ⟨text, rfl⟩ := Scalar.type_eq_string_iff.1 hs
      rw [eval_oneOf_string]
      exact iff_of_false (hlist _) (by simp [Scalar.type])
    · rw [eval_oneOf_scalar hs, Except.error.injEq]
      constructor
      · rintro rfl
        exact ⟨s, rfl, hs, rfl⟩
      · rintro ⟨t, ht, -, rfl⟩
        obtain rfl := Operand.scalar.inj ht
        rfl

/-- **The lookup `in` is one relation for all forms of values and operands.**

* A string as an operand is the list of its characters, for every value.
* On an array and a list, `in` is `overlap`.
* On a scalar and a list, it is `overlap` of the array with this scalar alone, and also
  `contains` of the list as an array with the scalar as the operand.
* It fails just if the operand is a scalar other than a string, whatever the value, and
  then names the type of the operand. -/
theorem eval_oneOf_uniform :
    (∀ (value : Value) (text : String), oneOf.eval value (.scalar (.string text)) =
      oneOf.eval value (.list (charactersOf text))) ∧
    (∀ items wanted : List Scalar, oneOf.eval (.array items) (.list wanted) =
      overlap.eval (.array items) (.list wanted)) ∧
    (∀ (s : Scalar) (wanted : List Scalar),
      oneOf.eval (.scalar s) (.list wanted) = overlap.eval (.array [s]) (.list wanted) ∧
        overlap.eval (.array [s]) (.list wanted) =
          (contains .sensitive).eval (.array wanted) (.scalar s)) ∧
    ∀ (value : Value) (operand : Operand) (e : LookupError),
      oneOf.eval value operand = .error e ↔ ∃ s : Scalar, operand = .scalar s ∧
        s.type ≠ .string ∧ e = .invalidArgument oneOf.name (.expectedListOrString s.type) := by
  refine ⟨eval_oneOf_string, fun items => eval_oneOf_list (.array items),
    fun s wanted => ⟨eval_oneOf_list (.scalar s) wanted, ?_⟩,
    fun value operand e => eval_oneOf_eq_error_iff⟩
  rw [eval_overlap_array, eval_contains_array, Except.ok.injEq, decide_eq_decide]
  -- Of a list with one item, being among others is meeting them.
  simp only [CaseRule.Meets, CaseRule.Among, Operand.items, List.mem_singleton, exists_eq_left,
    forall_eq]

end

example : oneOf.eval (.array [.string "né", .string "é"]) (.scalar (.string "née")) =
    .ok true := by decide +kernel

end Op
end RecordQuery

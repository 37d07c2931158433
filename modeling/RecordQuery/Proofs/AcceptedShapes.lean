/-
# Accepted shapes and evaluation

Which shapes of fields a built-in lookup can be applied to stands in a table
(`Op.accepts`).  Lookups that are applied to a field are checked against the table first;
evaluating a lookup by itself does not look at the table, but each evaluator takes only the
shapes that it can handle.  The two agree.

On a shape in the table the check changes nothing, and an evaluator is at fault only over
the types of value and operand, or over the pattern (`Op.Fault`): none of these faults
speaks of a shape.  On a shape that is not in the table every evaluator fails, whatever the
operand.  It reports the shape, as the check does, except that a pattern is read before the
shape is looked at (`Op.eval_of_not_allows`).
-/

import RecordQuery.Proofs.FirstFault

namespace RecordQuery
namespace Op

/-- What a lookup can be at fault with on a value of a shape that it accepts.  Only the
lookups that take a pattern can have an invalid one. -/
inductive Fault : Op → LookupError → Prop where
  | typeMismatch {op : Op} (left right : TypeName) : Fault op (.typeMismatch op.name left right)
  | invalidArgument {op : Op} (cause : ArgumentFault) :
    Fault op (.invalidArgument op.name cause)
  | invalidPattern {rule : CaseRule} : Fault (.regex rule) .invalidPattern

/-- A computation that fails, if it does, with a fault of the lookup. -/
def FailsOwn {α : Type} (op : Op) (r : Except LookupError α) : Prop :=
  ∀ e, r = .error e → op.Fault e

namespace FailsOwn

variable {α β : Type} {op : Op} {e : LookupError} {r : Except LookupError α}

/-- A computation that succeeds has no fault at all. -/
theorem ok (a : α) : op.FailsOwn (.ok a) := fun _ h => by cases h

/-- A computation may fail with a fault of the lookup. -/
theorem error (h : op.Fault e) : op.FailsOwn (.error e : Except LookupError α) :=
  fun _ he => Except.error.inj he ▸ h

/-- A function of the result brings in no fault. -/
theorem map (h : op.FailsOwn r) (f : α → β) : op.FailsOwn (r.map f) :=
  fun e he => h e (map_eq_error_iff.1 he)

/-- **Steps that fail only with faults of the lookup** can be put one after the other. -/
theorem bind {next : α → Except LookupError β} (h : op.FailsOwn r)
    (hnext : ∀ a, op.FailsOwn (next a)) : op.FailsOwn (r >>= next) := by
  intro e he
  rcases bind_eq_error_iff.1 he with he | ⟨a, -, he⟩
  · exact h e he
  · exact hnext a e he

end FailsOwn

/-- No fault of a lookup on a shape that it accepts is about a shape. -/
theorem Fault.not_unsupported {op : Op} {e : LookupError} (h : op.Fault e) (lookup : String)
    (shape : Shape) : e ≠ .unsupportedLookup lookup shape := by
  cases h <;> exact LookupError.noConfusion

/-! ### The steps of the evaluators -/

variable (op : Op) (operand : Operand)

/-- An item that is no string is an invalid argument. -/
theorem failsOwn_needles (items : List Scalar) : op.FailsOwn (needles op items) := by
  induction items with
  | nil => exact .ok _
  | cons item items ih =>
    cases item with
    | string s => exact ih.map _
    | _ => exact .error (.invalidArgument _)

/-- A value that is neither null nor a string has the wrong type. -/
theorem failsOwn_haystack? (s : Scalar) : op.FailsOwn (haystack? op s) := by
  cases s with
  | null => exact .ok _
  | string s => exact .ok _
  | _ => exact .error (.typeMismatch _ _)

/-- A list, or a scalar that is no string, is an invalid argument. -/
theorem failsOwn_affix : op.FailsOwn (affix op operand) := by
  cases operand with
  | list items => exact .error (.invalidArgument _)
  | scalar s =>
    cases s with
    | string s => exact .ok _
    | _ => exact .error (.invalidArgument _)

/-- Two scalars without an order have types that do not fit. -/
theorem failsOwn_ordered (a b : Scalar) : op.FailsOwn (op.ordered a b) := by
  unfold ordered
  split
  · exact .ok _
  · exact .error (.typeMismatch _ _)

/-- An operand that is no string is an invalid argument, and a string may be no pattern. -/
theorem failsOwn_compilePattern [PatternEngine] (rule : CaseRule) :
    (regex rule).FailsOwn ((regex rule).compilePattern operand) := by
  unfold compilePattern
  split
  · exact .error (.invalidArgument _)
  · split
    · exact .ok _
    · exact .error .invalidPattern

/-! ### The evaluators on shapes that they accept -/

/-- `contains` and `icontains` take values of both shapes. -/
theorem failsOwn_evalContains (value : Value) : op.FailsOwn (evalContains op value operand) := by
  cases value with
  | scalar s =>
    exact (failsOwn_needles op operand.items).bind fun _ =>
      (failsOwn_haystack? op s).bind fun _ => .ok _
  | array items => exact .ok _

/-- Lookups for the start or end of a string take scalars. -/
theorem failsOwn_evalAffix (test : List Char → List Char → Bool) (s : Scalar) :
    op.FailsOwn (evalAffix op test (.scalar s) operand) :=
  (FailsOwn.ok s).bind fun s => (failsOwn_affix op operand).bind fun _ =>
    (failsOwn_haystack? op s).bind fun _ => .ok _

/-- `in` takes values of both shapes. -/
theorem failsOwn_evalOneOf (value : Value) : oneOf.FailsOwn (evalOneOf value operand) := by
  cases operand with
  | list items => cases value <;> exact .ok _
  | scalar s =>
    cases s with
    | string s => cases value <;> exact .ok _
    | _ => exact .error (.invalidArgument _)

/-- The four orders take scalars. -/
theorem failsOwn_evalOrder (s : Scalar) : op.FailsOwn (evalOrder op (.scalar s) operand) := by
  refine (FailsOwn.ok s).bind fun s => ?_
  cases operand with
  | list items => exact .error (.typeMismatch _ _)
  | scalar other => exact (failsOwn_ordered op s other).bind fun _ => .ok _

/-- `range` takes scalars. -/
theorem failsOwn_evalRange (s : Scalar) : range.FailsOwn (evalRange (.scalar s) operand) := by
  refine (FailsOwn.ok s).bind fun s => ?_
  split
  · rename_i low high
    refine (failsOwn_ordered range s low).bind fun o => ?_
    split
    · exact .ok _
    · exact (failsOwn_ordered range s high).bind fun _ => .ok _
  · exact .error (.invalidArgument _)

/-- `isnull` takes values of both shapes. -/
theorem failsOwn_evalIsNull (value : Value) : isNull.FailsOwn (evalIsNull value operand) := by
  unfold evalIsNull
  split
  · exact .ok _
  · exact .error (.invalidArgument _)

/-- Searching for a pattern takes scalars. -/
theorem failsOwn_evalPattern [PatternEngine] (s : Scalar) (pattern : Pattern) :
    op.FailsOwn (evalPattern op (.scalar s) pattern) := by
  refine (FailsOwn.ok s).bind fun s => ?_
  cases s with
  | null => exact .ok _
  | string s => exact .ok _
  | _ => exact .error (.typeMismatch _ _)

/-- `len` takes arrays. -/
theorem failsOwn_evalLength (items : List Scalar) :
    op.FailsOwn (evalLength op (.array items) operand) := by
  refine (FailsOwn.ok items).bind fun items => ?_
  split
  · exact .ok _
  · exact .error (.invalidArgument _)

section

variable [PatternEngine]

/-- A lookup that accepts scalars is at fault on a scalar over types and patterns only. -/
theorem failsOwn_eval_scalar {op : Op} (h : op.accepts.scalar) (s : Scalar) (operand : Operand) :
    op.FailsOwn (op.eval (.scalar s) operand) := by
  -- The lookups for arrays alone are excluded by the table.
  cases op with
  | exact rule => exact .ok _
  | contains rule => exact failsOwn_evalContains _ operand (.scalar s)
  | startsWith rule => exact failsOwn_evalAffix _ operand Text.startsWith s
  | endsWith rule => exact failsOwn_evalAffix _ operand Text.endsWith s
  | oneOf => exact failsOwn_evalOneOf operand (.scalar s)
  | order relation => exact failsOwn_evalOrder _ operand s
  | range => exact failsOwn_evalRange operand s
  | isNull => exact failsOwn_evalIsNull operand (.scalar s)
  | regex rule =>
    exact (failsOwn_compilePattern operand rule).bind (failsOwn_evalPattern (.regex rule) s)
  | containedBy | overlap | length => cases h

/-- A lookup that accepts arrays is at fault on an array over types and patterns only. -/
theorem failsOwn_eval_array {op : Op} (h : op.accepts.array) (items : List Scalar)
    (operand : Operand) : op.FailsOwn (op.eval (.array items) operand) := by
  cases op with
  | exact rule => exact .ok _
  | contains rule => exact failsOwn_evalContains _ operand (.array items)
  | oneOf => exact failsOwn_evalOneOf operand (.array items)
  | isNull => exact failsOwn_evalIsNull operand (.array items)
  | containedBy => exact .ok _
  | overlap => exact .ok _
  | length => exact failsOwn_evalLength _ operand items
  | startsWith _ | endsWith _ | order _ | range | regex _ => cases h

/-- **On a shape that it accepts, a lookup is at fault over types and patterns only.** -/
theorem failsOwn_eval {op : Op} {value : Value} (h : op.accepts.allows value.shape)
    (operand : Operand) : op.FailsOwn (op.eval value operand) := by
  cases value with
  | scalar s => exact failsOwn_eval_scalar h s operand
  | array items => exact failsOwn_eval_array h items operand

/-- The same holds with a pattern that was prepared, from whatever operand. -/
theorem failsOwn_evalWith {op : Op} {value : Value} (h : op.accepts.allows value.shape)
    (pattern : Option Pattern) (operand : Operand) :
    op.FailsOwn (op.evalWith pattern value operand) := by
  cases op with
  | regex rule =>
    cases pattern with
    | none => exact failsOwn_eval h operand
    | some pattern =>
      cases value with
      | scalar s => exact failsOwn_evalPattern (.regex rule) s pattern
      | array items => exact absurd h Bool.false_ne_true
  | _ => exact failsOwn_eval h operand

/-! ### The evaluators on other shapes -/

/-- **On a shape that it does not accept, a lookup reports the shape,** after it has read
the pattern if it takes one. -/
theorem eval_of_not_allows {op : Op} {value : Value} (h : ¬op.accepts.allows value.shape)
    (operand : Operand) :
    op.eval value operand = (do
      let _ ← op.prepare operand
      throw (.unsupportedLookup op.name value.shape)) := by
  cases op with
  | regex rule =>
    cases value with
    | scalar s => exact absurd rfl h
    | array items =>
      -- This evaluator alone looks at the operand before the shape.
      rw [eval, evalWith, prepare]
      cases (regex rule).compilePattern operand <;> rfl
  | exact _ | contains _ | oneOf | isNull => cases value <;> exact absurd rfl h
  | startsWith _ | endsWith _ | order _ | range =>
    cases value with
    | scalar s => exact absurd rfl h
    | array items => rfl
  | containedBy | overlap | length =>
    cases value with
    | scalar s => rfl
    | array items => exact absurd rfl h

/-- On a shape that it does not accept, every lookup fails. -/
theorem exists_eval_error {op : Op} {value : Value} (h : ¬op.accepts.allows value.shape)
    (operand : Operand) : ∃ e, op.eval value operand = .error e := by
  rw [eval_of_not_allows h]
  cases op.prepare operand <;> exact ⟨_, rfl⟩

end

end Op

/-! ### The check -/

/-- On a shape in the table the check changes nothing. -/
theorem Lookup.apply_builtin_of_allows [PatternEngine] {op : Op} {value : Value}
    (h : op.accepts.allows value.shape) (operand : Operand) :
    (builtin op).apply value operand = op.eval value operand :=
  if_pos h

/-- On any other shape the check reports the lookup and the shape. -/
theorem Lookup.apply_of_not_allows [PatternEngine] (lookup : Lookup) {value : Value}
    (h : ¬lookup.accepts.allows value.shape) (operand : Operand) :
    lookup.apply value operand = .error (.unsupportedLookup lookup.name value.shape) :=
  if_neg h

namespace Op

/-- **The table of accepted shapes and the evaluators agree.**  For every built-in lookup,
every value and every operand:

* If the table has the shape of the value, evaluating the lookup is applying it, faults
  included; and every fault is one over types or patterns, so none is about the shape.
* If not, applying the lookup fails with the name of the lookup and the shape, and
  evaluating it fails too: with the same error, unless it takes a pattern and the operand
  is none. -/
theorem eval_accepts [PatternEngine] (op : Op) (value : Value) (operand : Operand) :
    (op.accepts.allows value.shape →
      op.eval value operand = (Lookup.builtin op).apply value operand ∧
        (∀ e, op.eval value operand = .error e → op.Fault e) ∧
          ∀ name shape, op.eval value operand ≠ .error (.unsupportedLookup name shape)) ∧
    (¬op.accepts.allows value.shape →
      (Lookup.builtin op).apply value operand = .error (.unsupportedLookup op.name value.shape) ∧
        (∃ e, op.eval value operand = .error e) ∧
          ((op.prepare operand).isOk →
            op.eval value operand = .error (.unsupportedLookup op.name value.shape))) := by
  refine ⟨fun h => ⟨(Lookup.apply_builtin_of_allows h operand).symm, failsOwn_eval h operand,
    fun name shape he => ?_⟩, fun h => ⟨?_, exists_eval_error h operand, fun hpattern => ?_⟩⟩
  · exact (failsOwn_eval h operand _ he).not_unsupported name shape rfl
  · exact (Lookup.builtin op).apply_of_not_allows h operand
  · obtain ⟨pattern, hpattern⟩ := isOk_iff.1 hpattern
    rw [eval_of_not_allows h, hpattern]
    rfl

/-- Both cases occur.  A number is no string, but `startswith` may be asked of it; an array
it does not accept.  A pattern that is not well formed is reported before the shape when
`regex` is evaluated on an array, and after it when `regex` is applied. -/
theorem eval_accepts_startsWith :
    ((startsWith .sensitive).accepts.allows (Value.scalar (.bool true)).shape ∧
      (Lookup.builtin (startsWith .sensitive)).apply (.scalar (.bool true))
        (.scalar (.string "a")) = .error (.typeMismatch "startswith" .bool .string)) ∧
    (¬(startsWith .sensitive).accepts.allows (Value.array []).shape ∧
      (startsWith .sensitive).eval (.array []) (.scalar (.bool true)) =
        .error (.unsupportedLookup "startswith" .array)) ∧
    ¬(regex .sensitive).accepts.allows (Value.array []).shape ∧
      (Lookup.builtin (regex .sensitive)).apply (.array []) (.scalar (.string "(")) =
        .error (.unsupportedLookup "regex" .array) ∧
      (regex .sensitive).eval (.array []) (.scalar (.string "(")) = .error .invalidPattern := by
  obtain ⟨hscalar, -⟩ := eval_accepts (startsWith .sensitive) (.scalar (.bool true))
    (.scalar (.string "a"))
  obtain ⟨-, harray⟩ := eval_accepts (startsWith .sensitive) (.array []) (.scalar (.bool true))
  obtain ⟨-, hpattern⟩ := eval_accepts (regex .sensitive) (.array []) (.scalar (.string "("))
  have hnot : ¬(startsWith .sensitive).accepts.allows (Value.array []).shape := by decide
  have hnot' : ¬(regex .sensitive).accepts.allows (Value.array []).shape := by decide
  exact ⟨⟨rfl, (hscalar rfl).1.symm⟩, ⟨hnot, (harray hnot).2.2 rfl⟩, hnot',
    (hpattern hnot').1, by decide +kernel⟩

end Op
end RecordQuery

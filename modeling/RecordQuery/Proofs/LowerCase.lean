/-
# Ignoring case is lowering both sides, each by itself

A lookup that ignores case lowers the value and the operand and then looks for the one in the
other.  The operand is lowered by itself, and in the value it may be lowered otherwise, next to
a `Σ` (`Text.LowersAlike`).

So where the form that heeds case holds, the form that ignores case holds too, unless the
operand is cut out of a word next to a `Σ`: `ΑΣΒ` has the prefix `ΑΣ`, but the lower case `ασβ`
has not the prefix `ας` (`Op.eval_of_caseSensitive`).
-/

import RecordQuery.Proofs.FirstFault
import RecordQuery.Proofs.LowerContext

namespace RecordQuery

/-! ### Equality -/

/-- Scalars that are equal are equal in lower case. -/
theorem CaseRule.same_insensitive {a b : Scalar} (h : sensitive.same a b) :
    insensitive.same a b := by
  cases a <;> cases b <;> first | exact h | skip
  rename_i s t
  obtain rfl : s = t := eq_of_beq h
  exact beq_self_eq_true _

/-- Lists that are alike item by item are so for any coarser test. -/
theorem isEqv_mono {α : Type} {r r' : α → α → Bool} (hr : ∀ a b, r a b → r' a b)
    {as bs : List α} (h : as.isEqv bs r) : as.isEqv bs r' := by
  induction as generalizing bs with
  | nil => cases bs <;> exact h
  | cons a as ih =>
    cases bs with
    | nil => exact h
    | cons b bs =>
      rw [List.isEqv, Bool.and_eq_true] at h ⊢
      exact ⟨hr a b h.1, ih h.2⟩

namespace Op

/-- What is among some items is among them in lower case. -/
theorem hasSame_insensitive {items : List Scalar} {s : Scalar} (h : hasSame .sensitive items s) :
    hasSame .insensitive items s := by
  obtain ⟨item, hitem, hsame⟩ := List.any_eq_true.1 h
  exact List.any_eq_true.2 ⟨item, hitem, CaseRule.same_insensitive hsame⟩

/-- So equality holds if it does in lower case only. -/
theorem evalExact_insensitive {value : Value} {operand : Operand}
    (h : evalExact .sensitive value operand) : evalExact .insensitive value operand := by
  cases value <;> cases operand
  · exact CaseRule.same_insensitive h
  · exact h
  · exact h
  · exact isEqv_mono (fun _ _ => CaseRule.same_insensitive) h

/-! ### Strings -/

/-- Strings are looked for as the case rule has them. -/
theorem needles_map_string (op : Op) (texts : List String) :
    needles op (texts.map .string) = .ok (texts.map op.caseRule.text) := by
  induction texts with
  | nil => rfl
  | cons text texts ih =>
    rw [List.map_cons, needles, ih]
    rfl

/-- Only strings are looked for. -/
theorem exists_of_needles {op : Op} {items : List Scalar} {wanted : List (List Char)}
    (h : needles op items = .ok wanted) : ∃ texts : List String, items = texts.map .string := by
  induction items generalizing wanted with
  | nil => exact ⟨[], rfl⟩
  | cons item items ih =>
    cases item with
    | string text =>
      obtain ⟨rest, hrest, -⟩ := map_eq_ok_iff.1 h
      obtain ⟨texts, rfl⟩ := ih hrest
      exact ⟨text :: texts, rfl⟩
    | _ => cases h

/-- Only a string has another in it. -/
theorem exists_of_haystack? {op : Op} {s : Scalar} {hay : Option (List Char)}
    {test : List Char → Bool} (h : haystack? op s = .ok hay) (htest : hay.any test) :
    ∃ text, s = .string text := by
  cases s with
  | string text => exact ⟨text, rfl⟩
  | null =>
    cases h
    cases htest
  | _ => cases h

/-- **A string contains others** if each of them occurs in it. -/
theorem evalContains_string (rule : CaseRule) (hay : String) {operand : Operand}
    {texts : List String} (h : operand.items = texts.map .string) :
    evalContains (.contains rule) (.scalar (.string hay)) operand =
      .ok (texts.all fun needle => Text.occursIn (rule.text needle) (rule.text hay)) := by
  have hwanted : needles (.contains rule) operand.items = .ok (texts.map rule.text) :=
    h ▸ needles_map_string (.contains rule) texts
  rw [evalContains, hwanted]
  simp [haystack?, bind, Except.bind, pure, Except.pure, caseRule, Function.comp_def]

/-- Nothing but a string contains anything, and only strings. -/
theorem exists_of_evalContains {rule : CaseRule} {s : Scalar} {operand : Operand}
    (h : evalContains (.contains rule) (.scalar s) operand = .ok true) :
    ∃ (hay : String) (texts : List String),
      s = .string hay ∧ operand.items = texts.map .string := by
  obtain ⟨wanted, hwanted, h⟩ := bind_eq_ok_iff.1 h
  obtain ⟨hay, hhay, h⟩ := bind_eq_ok_iff.1 h
  obtain ⟨text, rfl⟩ := exists_of_haystack? hhay (Except.ok.inj h)
  obtain ⟨texts, htexts⟩ := exists_of_needles hwanted
  exact ⟨text, texts, rfl, htexts⟩

/-- A string begins or ends with another as the test says. -/
theorem evalAffix_string (op : Op) (test : List Char → List Char → Bool) (hay needle : String) :
    evalAffix op test (.scalar (.string hay)) (.scalar (.string needle)) =
      .ok (test (op.caseRule.text hay) (op.caseRule.text needle)) := rfl

/-- Nothing but a string begins or ends with anything, and only with one string. -/
theorem exists_of_evalAffix {op : Op} {test : List Char → List Char → Bool} {value : Value}
    {operand : Operand} (h : evalAffix op test value operand = .ok true) :
    ∃ hay needle, value = .scalar (.string hay) ∧ operand = .scalar (.string needle) := by
  obtain ⟨s, hs, h⟩ := bind_eq_ok_iff.1 h
  obtain ⟨needle, hneedle, h⟩ := bind_eq_ok_iff.1 h
  obtain ⟨hay, hhay, h⟩ := bind_eq_ok_iff.1 h
  obtain ⟨text, rfl⟩ := exists_of_haystack? hhay (Except.ok.inj h)
  obtain rfl : value = .scalar (.string text) := by
    cases value with
    | scalar s => exact congrArg Value.scalar (Except.ok.inj hs)
    | array items => cases hs
  match operand, hneedle with
  | .scalar (.string needle), _ => exact ⟨text, needle, rfl, rfl⟩

/-! ### The forms that ignore case -/

section

variable [PatternEngine] {op : Op} {value : Value} {operand : Operand} {hay needle : String}

/-- A prefix is found in lower case just if it is lowered as by itself. -/
theorem eval_startsWith_iff {after : List Char} (h : hay.toList = needle.toList ++ after) :
    eval (.startsWith .insensitive) (.scalar (.string hay)) (.scalar (.string needle)) =
      .ok true ↔ Text.LowersAlike [] needle.toList after := by
  rw [eval, evalWith, evalAffix_string, Except.ok.injEq, ← Text.startsWith_lowercase_iff, ← h]
  rfl

/-- A suffix is found in lower case just if it is lowered as by itself. -/
theorem eval_endsWith_iff {before : List Char} (h : hay.toList = before ++ needle.toList) :
    eval (.endsWith .insensitive) (.scalar (.string hay)) (.scalar (.string needle)) =
      .ok true ↔ Text.LowersAlike before needle.toList [] := by
  rw [eval, evalWith, evalAffix_string, Except.ok.injEq, ← Text.endsWith_lowercase_iff, ← h]
  rfl

/-- Strings that are lowered as by themselves somewhere in another are found in it. -/
theorem eval_contains_of_lowersAlike {texts : List String}
    (htexts : operand.items = texts.map .string)
    (h : ∀ needle ∈ texts, ∃ before after, hay.toList = before ++ needle.toList ++ after ∧
      Text.LowersAlike before needle.toList after) :
    eval (.contains .insensitive) (.scalar (.string hay)) operand = .ok true := by
  rw [eval, evalWith, evalContains_string .insensitive hay htexts]
  refine congrArg Except.ok (List.all_eq_true.2 fun needle hneedle => ?_)
  obtain ⟨before, after, hhay, hlowers⟩ := h needle hneedle
  rw [CaseRule.text, CaseRule.text, hhay]
  exact hlowers.occursIn

/-- **What there is if the form that heeds case holds:** equal scalars or arrays, an
array with the items looked for, or strings that stand in another. -/
theorem cases_of_caseSensitive
    (hop : op ∈ [.exact .insensitive, .contains .insensitive, .startsWith .insensitive,
      .endsWith .insensitive])
    (h : op.caseSensitive.eval value operand = .ok true) :
    ((op = .exact .insensitive ∨ ∃ items, value = .array items) ∧
      op.eval value operand = .ok true) ∨
    (∃ (hay : String) (texts : List String), op = .contains .insensitive ∧
      value = .scalar (.string hay) ∧ operand.items = texts.map .string ∧
      ∀ needle ∈ texts, ∃ before after, hay.toList = before ++ needle.toList ++ after) ∨
    (∃ (hay needle : String) (after : List Char), op = .startsWith .insensitive ∧
      value = .scalar (.string hay) ∧ operand = .scalar (.string needle) ∧
      hay.toList = needle.toList ++ after) ∨
    ∃ (hay needle : String) (before : List Char), op = .endsWith .insensitive ∧
      value = .scalar (.string hay) ∧ operand = .scalar (.string needle) ∧
      hay.toList = before ++ needle.toList := by
  simp only [List.mem_cons, List.not_mem_nil, or_false] at hop
  rcases hop with rfl | rfl | rfl | rfl
  · exact .inl ⟨.inl rfl, congrArg Except.ok (evalExact_insensitive (Except.ok.inj h))⟩
  · cases value with
    | array items =>
      have hall := List.all_eq_true.1 (Except.ok.inj h)
      exact .inl ⟨.inr ⟨items, rfl⟩, congrArg Except.ok
        (List.all_eq_true.2 fun item hitem => hasSame_insensitive (hall item hitem))⟩
    | scalar s =>
      obtain ⟨hay, texts, rfl, htexts⟩ := exists_of_evalContains h
      rw [caseSensitive, eval, evalWith, evalContains_string .sensitive hay htexts] at h
      have hall := List.all_eq_true.1 (Except.ok.inj h)
      exact .inr (.inl ⟨hay, texts, rfl, rfl, htexts,
        fun needle hneedle => Text.occursIn_iff.1 (hall needle hneedle)⟩)
  · obtain ⟨hay, needle, rfl, rfl⟩ := exists_of_evalAffix h
    obtain ⟨after, hafter⟩ := List.isPrefixOf_iff_prefix.1 (Except.ok.inj h)
    exact .inr (.inr (.inl ⟨hay, needle, after, rfl, rfl, rfl, hafter.symm⟩))
  · obtain ⟨hay, needle, rfl, rfl⟩ := exists_of_evalAffix h
    obtain ⟨before, hbefore⟩ := List.isSuffixOf_iff_suffix.1 (Except.ok.inj h)
    exact .inr (.inr (.inr ⟨hay, needle, before, rfl, rfl, rfl, hbefore.symm⟩))

/-- **How far ignoring case is less strict.**  Let one of the lookups `exact`, `contains`,
`startswith` and `endswith` hold of a value and an operand.  Then its form that ignores
case does not fail, and

* equality holds, and so does any of them on an array;
* a prefix or a suffix is still found exactly if it is lowered in the value as by
  itself, that is, if each `Σ` in it ends a word of the value if and only if it ends a
  word of the operand (`Text.LowersAlike`);
* strings that occur in the value are still found if each of them occurs in a place
  where it is lowered as by itself;
* so it always holds for an operand without a `Σ`. -/
theorem eval_of_caseSensitive
    (hop : op ∈ [.exact .insensitive, .contains .insensitive, .startsWith .insensitive,
      .endsWith .insensitive])
    (h : op.caseSensitive.eval value operand = .ok true) :
    (op.eval value operand).isOk ∧
    (op = .exact .insensitive ∨ (∃ items, value = .array items) →
      op.eval value operand = .ok true) ∧
    (∀ hay needle : String, value = .scalar (.string hay) →
      operand = .scalar (.string needle) →
        (op = .startsWith .insensitive → ∀ after, hay.toList = needle.toList ++ after →
          (op.eval value operand = .ok true ↔ Text.LowersAlike [] needle.toList after)) ∧
        (op = .endsWith .insensitive → ∀ before, hay.toList = before ++ needle.toList →
          (op.eval value operand = .ok true ↔ Text.LowersAlike before needle.toList []))) ∧
    (∀ hay : String, value = .scalar (.string hay) → op = .contains .insensitive →
      (∀ needle : String, .string needle ∈ operand.items → ∃ before after,
        hay.toList = before ++ needle.toList ++ after ∧
          Text.LowersAlike before needle.toList after) → op.eval value operand = .ok true) ∧
    ((∀ needle : String, .string needle ∈ operand.items → 'Σ' ∉ needle.toList) →
      op.eval value operand = .ok true) := by
  have hcases := cases_of_caseSensitive hop h
  refine ⟨?_, ?_, ?_, ?_, ?_⟩
  · rcases hcases with ⟨-, heval⟩ | ⟨hay, texts, rfl, rfl, htexts, -⟩ |
      ⟨hay, needle, after, rfl, rfl, rfl, -⟩ | ⟨hay, needle, before, rfl, rfl, rfl, -⟩
    · exact heval ▸ rfl
    · rw [eval, evalWith, evalContains_string .insensitive hay htexts]
      rfl
    · rfl
    · rfl
  · intro hequal
    rcases hcases with ⟨-, heval⟩ | ⟨_, _, rfl, rfl, -⟩ | ⟨_, _, _, rfl, rfl, -⟩ |
      ⟨_, _, _, rfl, rfl, -⟩
    · exact heval
    all_goals simp at hequal
  · rintro hay needle rfl rfl
    constructor
    · rintro rfl after hafter
      exact eval_startsWith_iff hafter
    · rintro rfl before hbefore
      exact eval_endsWith_iff hbefore
  · rintro hay rfl rfl halike
    rcases hcases with ⟨-, heval⟩ | ⟨_, texts, -, -, htexts, -⟩ | ⟨_, _, _, hother, -⟩ |
      ⟨_, _, _, hother, -⟩
    · exact heval
    · exact eval_contains_of_lowersAlike htexts fun needle hneedle =>
        halike needle (htexts ▸ List.mem_map_of_mem hneedle)
    · cases hother
    · cases hother
  · intro hnone
    rcases hcases with ⟨-, heval⟩ | ⟨hay, texts, rfl, rfl, htexts, hplaces⟩ |
      ⟨hay, needle, after, rfl, rfl, rfl, hafter⟩ | ⟨hay, needle, before, rfl, rfl, rfl, hbefore⟩
    · exact heval
    · refine eval_contains_of_lowersAlike htexts fun needle hneedle => ?_
      obtain ⟨before, after, hhay⟩ := hplaces needle hneedle
      have hnot := hnone needle (htexts ▸ List.mem_map_of_mem hneedle)
      exact ⟨before, after, hhay, Text.lowersAlike_of_not_mem hnot before after⟩
    · have hnot := hnone needle (List.mem_singleton.2 rfl)
      exact (eval_startsWith_iff hafter).2 (Text.lowersAlike_of_not_mem hnot [] after)
    · have hnot := hnone needle (List.mem_singleton.2 rfl)
      exact (eval_endsWith_iff hbefore).2 (Text.lowersAlike_of_not_mem hnot before [])

end

/-- The hypotheses are satisfiable, with a `Σ` that ends a word in the value and in the
operand.  A space after it lowers it alike; a letter after it does not. -/
theorem eval_of_caseSensitive_sigma :
    (contains .insensitive ∈ [exact .insensitive, .contains .insensitive,
      .startsWith .insensitive, .endsWith .insensitive] ∧
      (contains .insensitive).caseSensitive.eval (.scalar (.string "ΑΣ Β"))
        (.scalar (.string "ΑΣ")) = .ok true) ∧
    (contains .insensitive).eval (.scalar (.string "ΑΣ Β")) (.scalar (.string "ΑΣ")) =
      .ok true ∧
    ¬Text.LowersAlike [] "ΑΣ".toList "Β".toList := by
  have hmem : contains .insensitive ∈ [exact .insensitive, .contains .insensitive,
      .startsWith .insensitive, .endsWith .insensitive] := by decide
  have hholds : (contains .insensitive).caseSensitive.eval (.scalar (.string "ΑΣ Β"))
      (.scalar (.string "ΑΣ")) = .ok true := by decide +kernel
  have hstarts : (startsWith .insensitive).caseSensitive.eval (.scalar (.string "ΑΣΒ"))
      (.scalar (.string "ΑΣ")) = .ok true := by decide +kernel
  obtain ⟨-, -, -, hcontains, -⟩ := eval_of_caseSensitive hmem hholds
  obtain ⟨-, -, haffix, -⟩ := eval_of_caseSensitive (by decide) hstarts
  refine ⟨⟨hmem, hholds⟩, hcontains "ΑΣ Β" rfl rfl fun needle hneedle => ?_, fun halike => ?_⟩
  · obtain rfl : needle = "ΑΣ" := Scalar.string.inj (List.mem_singleton.1 hneedle)
    exact ⟨[], " Β".toList, rfl, Text.lowersAlike_iff.2 (by decide +kernel)⟩
  · have htrue := ((haffix "ΑΣΒ" "ΑΣ" rfl rfl).1 rfl "Β".toList rfl).2 halike
    have hfalse : (startsWith .insensitive).eval (.scalar (.string "ΑΣΒ"))
        (.scalar (.string "ΑΣ")) = .ok false := by decide +kernel
    rw [hfalse] at htrue
    cases htrue

/-- **Ignoring case can be stricter.**  In `ΑΣΒ` there is the string `ΑΣ`, as its
beginning, and in `ΑΣ` the string `Σ`, as its end; but not so in lower case. -/
theorem eval_stricter_than_caseSensitive :
    ((contains .insensitive).caseSensitive.eval (.scalar (.string "ΑΣΒ"))
        (.scalar (.string "ΑΣ")) = .ok true ∧
      (contains .insensitive).eval (.scalar (.string "ΑΣΒ")) (.scalar (.string "ΑΣ")) =
        .ok false) ∧
    ((startsWith .insensitive).caseSensitive.eval (.scalar (.string "ΑΣΒ"))
        (.scalar (.string "ΑΣ")) = .ok true ∧
      (startsWith .insensitive).eval (.scalar (.string "ΑΣΒ")) (.scalar (.string "ΑΣ")) =
        .ok false) ∧
    (endsWith .insensitive).caseSensitive.eval (.scalar (.string "ΑΣ"))
        (.scalar (.string "Σ")) = .ok true ∧
      (endsWith .insensitive).eval (.scalar (.string "ΑΣ")) (.scalar (.string "Σ")) =
        .ok false := by
  decide +kernel

end Op
end RecordQuery

/-
# String lookups fail on types alone

A string lookup on a scalar reads its operand, then the value, and then compares
(`Op.eval_scalar_eq`).  Each of the first two steps can fail, and on types alone: the operand
is refused for an item that is no string, or for being a list where one string is looked for
(`Op.Refuses`), and the value if it is neither a string nor null.  Since the operand is read
first, a wrong one is reported for every value, also where the value would make the answer
false or is itself at fault (`Op.eval_scalar_eq_error_iff`).

What a list asks is asked item by item: `contains` with a list is the conjunction of
`contains` with each of its items, faults included (`Op.eval_contains_list_eq_ok_iff`).  This
takes at least one item.  Without any, a null value still gives false, and a number is still
at fault.
-/

import RecordQuery.Proofs.LowerCase
import RecordQuery.Proofs.Membership

namespace RecordQuery
namespace Op

/-- The lookups that look for strings in a string. -/
def stringLookups : List Op :=
  [contains .sensitive, contains .insensitive, startsWith .sensitive, startsWith .insensitive,
    endsWith .sensitive, endsWith .insensitive]

/-- Whether a lookup looks for one string only, at the beginning or at the end. -/
def isAffix : Op → Bool
  | .startsWith _ | .endsWith _ => true
  | _ => false

/-- A lookup can read an operand if all its items are strings, and it is not a list where one
string is looked for. -/
def CanRead (op : Op) (operand : Operand) : Prop :=
  (∀ s ∈ operand.items, s.type = .string) ∧ ¬ (op.isAffix ∧ operand.type = .list)

/-- A lookup refuses an operand for this type: that of a list where one string is looked for,
and otherwise that of the first item that is no string. -/
inductive Refuses (op : Op) (operand : Operand) : TypeName → Prop where
  | list : op.isAffix ∧ operand.type = .list → Refuses op operand .list
  | item {s : Scalar} : ¬ (op.isAffix ∧ operand.type = .list) →
    operand.items.find? (·.type ≠ .string) = some s → Refuses op operand s.type

variable {op : Op} {operand : Operand} {rule : CaseRule} {v : Scalar} {e : LookupError} {b : Bool}

/-- The operands that are refused are those that cannot be read. -/
theorem exists_refuses_iff : (∃ got, op.Refuses operand got) ↔ ¬op.CanRead operand := by
  constructor
  · rintro ⟨got, hlist | ⟨hone, hfind⟩⟩ ⟨hstrings, hnot⟩
    · exact hnot hlist
    · have hitem := hstrings _ (List.mem_of_find?_eq_some hfind)
      have hwrong := List.find?_some hfind
      simp [hitem] at hwrong
  · intro h
    by_cases hlist : op.isAffix ∧ operand.type = .list
    · exact ⟨.list, .list hlist⟩
    · have hitem : ∃ s ∈ operand.items, s.type ≠ .string := by
        by_contra hnone
        push Not at hnone
        exact h ⟨hnone, hlist⟩
      have hsome : (operand.items.find? (·.type ≠ .string)).isSome :=
        List.find?_isSome.2 (by simpa using hitem)
      obtain ⟨first, hfirst⟩ := Option.isSome_iff_exists.1 hsome
      exact ⟨first.type, .item hlist hfirst⟩

/-- Both forms of `contains` are string lookups. -/
theorem contains_mem_stringLookups (rule : CaseRule) : contains rule ∈ stringLookups := by
  cases rule <;> decide

/-- They read any list of strings. -/
theorem canRead_contains_iff : (contains rule).CanRead operand ↔
    ∀ s ∈ operand.items, s.type = .string :=
  and_iff_left (fun h => Bool.false_ne_true h.1)

/-! ### The three steps -/

/-- The strings that a lookup looks for. -/
def wantedOf (op : Op) (operand : Operand) : Except LookupError (List (List Char)) :=
  if op.isAffix ∧ operand.type = .list then
    .error (.invalidArgument op.name (.expectedString .list))
  else needles op operand.items

/-- Whether one string is found in another as a lookup asks for it. -/
def finds : Op → List Char → List Char → Bool
  | .startsWith _, hay, needle => Text.startsWith hay needle
  | .endsWith _, hay, needle => Text.endsWith hay needle
  | _, hay, needle => Text.occursIn needle hay

/-- A lookup that looks for one string reads it as any other string. -/
theorem map_affix (hop : op.isAffix) :
    (affix op operand).map (fun needle => [needle]) = wantedOf op operand := by
  cases operand with
  | list items => simp [wantedOf, affix, Operand.type, Except.map, hop]
  | scalar s => cases s <;> simp [wantedOf, affix, needles, Operand.type, Scalar.type,
      Operand.items, Except.map]

/-- **A string lookup reads the operand, then the value, and then compares.** -/
theorem eval_scalar_eq [PatternEngine] (hop : op ∈ stringLookups) (v : Scalar) (operand : Operand) :
    op.eval (.scalar v) operand = (do
      let wanted ← wantedOf op operand
      let hay ← haystack? op v
      return hay.any fun hay => wanted.all (op.finds hay)) := by
  have haffix : ∀ (op : Op) (test : List Char → List Char → Bool), op.isAffix →
      evalAffix op test (.scalar v) operand = (do
        let wanted ← wantedOf op operand
        let hay ← haystack? op v
        return hay.any fun hay => wanted.all (test hay)) := by
    intro op test hop
    rw [evalAffix, needScalar, ← map_affix hop]
    simp only [bind, Except.bind]
    cases affix op operand with
    | error e => rfl
    | ok needle => simp [Except.map]
  simp only [stringLookups, List.mem_cons, List.not_mem_nil, or_false] at hop
  rcases hop with rfl | rfl | rfl | rfl | rfl | rfl
  · simp only [wantedOf, isAffix, Bool.false_eq_true, false_and, if_false]
    rfl
  · simp only [wantedOf, isAffix, Bool.false_eq_true, false_and, if_false]
    rfl
  · exact haffix (.startsWith .sensitive) Text.startsWith rfl
  · exact haffix (.startsWith .insensitive) Text.startsWith rfl
  · exact haffix (.endsWith .sensitive) Text.endsWith rfl
  · exact haffix (.endsWith .insensitive) Text.endsWith rfl

/-- The first item that is no string is reported. -/
theorem needles_eq_error_iff {items : List Scalar} : needles op items = .error e ↔
    ∃ s, items.find? (·.type ≠ .string) = some s ∧
      e = .invalidArgument op.name (.expectedString s.type) := by
  induction items with
  | nil => simp [needles]
  | cons item items ih =>
    cases item with
    | string text =>
      have hnext : (Scalar.string text :: items).find? (·.type ≠ .string) =
          items.find? (·.type ≠ .string) := List.find?_cons_of_neg (by simp [Scalar.type])
      rw [needles, map_eq_error_iff, ih, hnext]
    | _ => simp [needles, Scalar.type, eq_comm]

/-- **Reading the operand fails just if the lookup refuses it.** -/
theorem wantedOf_eq_error_iff : wantedOf op operand = .error e ↔
    ∃ got, op.Refuses operand got ∧ e = .invalidArgument op.name (.expectedString got) := by
  rw [wantedOf]
  split
  case isTrue hlist =>
    constructor
    · intro h
      exact ⟨.list, .list hlist, (Except.error.inj h).symm⟩
    · rintro ⟨got, _ | ⟨hone, hfind⟩, rfl⟩
      · rfl
      · exact absurd hlist hone
  case isFalse hone =>
    rw [needles_eq_error_iff]
    constructor
    · rintro ⟨s, hfind, rfl⟩
      exact ⟨s.type, .item hone hfind, rfl⟩
    · rintro ⟨got, hlist | ⟨_, hfind⟩, rfl⟩
      · exact absurd hlist hone
      · exact ⟨_, hfind, rfl⟩

/-- Reading the value fails just if it is neither a string nor null. -/
theorem haystack?_eq_error_iff : haystack? op v = .error e ↔
    v.type ≠ .string ∧ v.type ≠ .null ∧ e = .typeMismatch op.name v.type .string := by
  cases v <;> simp [haystack?, Scalar.type, eq_comm]

/-- Reading the operand succeeds just if the lookup can read it. -/
theorem isOk_wantedOf_iff : (wantedOf op operand).isOk ↔ op.CanRead operand := by
  rw [← not_iff_not, not_isOk_iff, ← exists_refuses_iff]
  simp only [wantedOf_eq_error_iff]
  constructor
  · rintro ⟨e, got, hgot, -⟩
    exact ⟨got, hgot⟩
  · rintro ⟨got, hgot⟩
    exact ⟨_, got, hgot, rfl⟩

/-- What can be read is a list of strings. -/
theorem CanRead.exists_texts (h : op.CanRead operand) :
    ∃ texts : List String, operand.items = texts.map .string := by
  obtain ⟨wanted, hwanted⟩ := isOk_iff.1 (isOk_wantedOf_iff.2 h)
  rw [wantedOf, if_neg h.2] at hwanted
  exact exists_of_needles hwanted

/-! ### What a string lookup reports -/

section

variable [PatternEngine]

/-- **A wrong operand is reported first, and whatever the value.** -/
theorem eval_scalar_eq_error_iff (hop : op ∈ stringLookups) :
    op.eval (.scalar v) operand = .error e ↔
      (∃ got, op.Refuses operand got ∧ e = .invalidArgument op.name (.expectedString got)) ∨
      op.CanRead operand ∧ v.type ≠ .string ∧ v.type ≠ .null ∧
        e = .typeMismatch op.name v.type .string := by
  rw [eval_scalar_eq hop, bind_eq_error_iff, wantedOf_eq_error_iff, ← isOk_wantedOf_iff, isOk_iff]
  refine or_congr_right ?_
  constructor
  · rintro ⟨wanted, hwanted, h⟩
    rcases bind_eq_error_iff.1 h with hvalue | ⟨hay, -, hcompare⟩
    · exact ⟨⟨wanted, hwanted⟩, haystack?_eq_error_iff.1 hvalue⟩
    · cases hcompare
  · rintro ⟨⟨wanted, hwanted⟩, hvalue⟩
    exact ⟨wanted, hwanted, bind_eq_error_iff.2 (.inl (haystack?_eq_error_iff.2 hvalue))⟩

/-- There is an answer if the operand can be read, and the value is a string or null. -/
theorem isOk_eval_scalar_iff (hop : op ∈ stringLookups) :
    (op.eval (.scalar v) operand).isOk ↔
      op.CanRead operand ∧ (v.type = .string ∨ v.type = .null) := by
  rw [← not_iff_not, not_isOk_iff]
  simp only [eval_scalar_eq_error_iff hop]
  constructor
  · rintro ⟨e, ⟨got, hgot, -⟩ | ⟨-, hstring, hnull, -⟩⟩ ⟨hread, htype⟩
    · exact exists_refuses_iff.1 ⟨got, hgot⟩ hread
    · exact htype.elim hstring hnull
  · intro h
    by_cases hread : op.CanRead operand
    · have htype : ¬(v.type = .string ∨ v.type = .null) := fun htype => h ⟨hread, htype⟩
      rw [not_or] at htype
      exact ⟨_, .inr ⟨hread, htype.1, htype.2, rfl⟩⟩
    · obtain ⟨got, hgot⟩ := exists_refuses_iff.2 hread
      exact ⟨_, .inl ⟨got, hgot, rfl⟩⟩

/-- **Null has no string in it.** -/
theorem eval_null (hop : op ∈ stringLookups) (hread : op.CanRead operand) :
    op.eval (.scalar .null) operand = .ok false := by
  obtain ⟨wanted, hwanted⟩ := isOk_iff.1 (isOk_wantedOf_iff.2 hread)
  rw [eval_scalar_eq hop, hwanted]
  rfl

/-! ### A list is a conjunction -/

variable {items : List Scalar} {value : Value}

/-- A list can be read if each of its items can. -/
theorem isOk_eval_contains_list_iff (hne : items ≠ []) :
    ((contains rule).eval value (.list items)).isOk ↔
      ∀ s ∈ items, ((contains rule).eval value (.scalar s)).isOk := by
  cases value with
  | array held =>
    simp only [eval_contains_array]
    exact iff_of_true rfl fun s hs => rfl
  | scalar v =>
    simp only [isOk_eval_scalar_iff (contains_mem_stringLookups rule), canRead_contains_iff,
      Operand.items, List.mem_singleton, forall_eq]
    obtain ⟨first, rest, rfl⟩ := List.exists_cons_of_ne_nil hne
    constructor
    · rintro ⟨hitems, hvalue⟩ s hs
      exact ⟨hitems s hs, hvalue⟩
    · -- The value is at fault with an empty list too, which only an item can tell.
      intro h
      exact ⟨fun s hs => (h s hs).1, (h first List.mem_cons_self).2⟩

/-- What is read from a list is the conjunction of what is read from its items. -/
theorem eval_contains_list (hne : items ≠ [])
    (hok : ((contains rule).eval value (.list items)).isOk) :
    (contains rule).eval value (.list items) =
      .ok (items.all fun s => (contains rule).eval value (.scalar s) = .ok true) := by
  cases value with
  | array held =>
    simp only [eval_contains_array, Except.ok.injEq, decide_eq_true_eq]
    rw [Bool.eq_iff_iff, decide_eq_true_iff, List.all_eq_true]
    simp [CaseRule.Among, Operand.items]
  | scalar v =>
    have hop := contains_mem_stringLookups rule
    obtain ⟨hread, hvalue⟩ := (isOk_eval_scalar_iff hop).1 hok
    obtain ⟨texts, htexts⟩ := hread.exists_texts
    obtain rfl : items = texts.map .string := htexts
    have hitem : ∀ text, (contains rule).CanRead (.scalar (.string text)) := fun text =>
      canRead_contains_iff.2 (by simp [Operand.items, Scalar.type])
    rcases hvalue with hstring | hnull
    · obtain ⟨hay, rfl⟩ := Scalar.type_eq_string_iff.1 hstring
      have hstrings : ∀ (operand : Operand) (texts : List String),
          operand.items = texts.map .string →
          (contains rule).eval (.scalar (.string hay)) operand =
            .ok (texts.all fun text => Text.occursIn (rule.text text) (rule.text hay)) :=
        fun operand texts => evalContains_string rule hay
      have hone : ∀ text, (contains rule).eval (.scalar (.string hay)) (.scalar (.string text)) =
          .ok (Text.occursIn (rule.text text) (rule.text hay)) := by
        intro text
        rw [hstrings _ [text] rfl, List.all_cons, List.all_nil, Bool.and_true]
      rw [hstrings _ texts rfl]
      simp [hone, List.all_map, Function.comp_def]
    · -- No item is in null, so one is needed for the conjunction to be false.
      obtain rfl : v = .null := by cases v <;> first | rfl | cases hnull
      rw [eval_null hop hread]
      obtain ⟨text, rest, rfl⟩ := List.exists_cons_of_ne_nil (by simpa using hne)
      simp [eval_null hop (hitem text)]

/-- **`contains` with a list is the conjunction of `contains` with its items.** -/
theorem eval_contains_list_eq_ok_iff (hne : items ≠ []) :
    (contains rule).eval value (.list items) = .ok b ↔
      (∀ s ∈ items, ((contains rule).eval value (.scalar s)).isOk) ∧
        b = items.all fun s => (contains rule).eval value (.scalar s) = .ok true := by
  rw [← isOk_eval_contains_list_iff hne]
  constructor
  · intro h
    have hok : ((contains rule).eval value (.list items)).isOk := isOk_iff.2 ⟨b, h⟩
    exact ⟨hok, Except.ok.inj (h.symm.trans (eval_contains_list hne hok))⟩
  · rintro ⟨hok, rfl⟩
    exact eval_contains_list hne hok

/-- **String lookups fail on types alone, and a list operand is a conjunction.**  For every
string lookup, every scalar and every operand:

* the lookup fails as the operand is refused, whatever the scalar, and if it can be read, as
  the scalar is neither a string nor null; nothing else fails;
* the operand is refused just if it has an item that is no string, or is a list where one
  string is looked for;
* so there is an answer just if the operand can be read, and the scalar is a string or null;
* null then gets the answer false.

On any value and any list that is not empty, `contains` with either case rule has an answer
just if it has one with each item of the list alone, and it is the conjunction of these. -/
theorem eval_string_operands :
    (∀ op ∈ stringLookups, ∀ (v : Scalar) (operand : Operand),
      (∀ e, op.eval (.scalar v) operand = .error e ↔
        (∃ got, op.Refuses operand got ∧ e = .invalidArgument op.name (.expectedString got)) ∨
        op.CanRead operand ∧ v.type ≠ .string ∧ v.type ≠ .null ∧
          e = .typeMismatch op.name v.type .string) ∧
      ((∃ got, op.Refuses operand got) ↔
        (∃ s ∈ operand.items, s.type ≠ .string) ∨ (op.isAffix ∧ operand.type = .list)) ∧
      ((op.eval (.scalar v) operand).isOk ↔
        op.CanRead operand ∧ (v.type = .string ∨ v.type = .null)) ∧
      (op.CanRead operand → op.eval (.scalar .null) operand = .ok false)) ∧
    ∀ (rule : CaseRule) (value : Value) (items : List Scalar) (b : Bool), items ≠ [] →
      ((contains rule).eval value (.list items) = .ok b ↔
        (∀ s ∈ items, ((contains rule).eval value (.scalar s)).isOk) ∧
          b = items.all fun s => (contains rule).eval value (.scalar s) = .ok true) := by
  refine ⟨fun op hop v operand => ⟨fun e => eval_scalar_eq_error_iff hop, ?_,
    isOk_eval_scalar_iff hop, eval_null hop⟩,
    fun rule value items b hne => eval_contains_list_eq_ok_iff hne⟩
  rw [exists_refuses_iff, CanRead, not_and_or, not_not]
  push Not
  rfl

end

/-- The hypotheses are satisfiable.  A wrong operand is reported where the value is null, and
what is asked of a list is asked item by item. -/
theorem eval_string_operands_null :
    (startsWith .insensitive ∈ stringLookups ∧
      (startsWith .insensitive).eval (.scalar .null) (.list [.string "a"]) =
        .error (.invalidArgument "istartswith" (.expectedString .list))) ∧
    (contains .sensitive ∈ stringLookups ∧
      (contains .sensitive).eval (.scalar .null) (.list [.string "a", one]) =
        .error (.invalidArgument "contains" (.expectedString .number)) ∧
      (contains .sensitive).CanRead (.list [.string "a", .string ""]) ∧
      (contains .sensitive).eval (.scalar .null) (.list [.string "a", .string ""]) =
        .ok false) ∧
    ([.string "DUNE", .string "sea"] ≠ ([] : List Scalar) ∧
      (contains .insensitive).eval (.scalar (.string "Dune Sea"))
        (.list [.string "DUNE", .string "sea"]) = .ok true) := by
  have hstarts : startsWith .insensitive ∈ stringLookups := by decide
  have hcontains : contains .sensitive ∈ stringLookups := by decide
  have hread : (contains .sensitive).CanRead (.list [.string "a", .string ""]) := by
    simp [CanRead, Operand.items, Scalar.type, isAffix]
  have hmixed : (contains .sensitive).Refuses (.list [.string "a", one]) one.type :=
    .item (by simp [isAffix]) (by decide +kernel)
  have hne : [.string "DUNE", .string "sea"] ≠ ([] : List Scalar) := List.cons_ne_nil _ _
  obtain ⟨hlookups, hconjunction⟩ := eval_string_operands
  obtain ⟨haffix, -⟩ := hlookups _ hstarts .null (.list [.string "a"])
  obtain ⟨hitem, -⟩ := hlookups _ hcontains .null (.list [.string "a", one])
  obtain ⟨-, -, -, hnull⟩ := hlookups _ hcontains .null (.list [.string "a", .string ""])
  refine ⟨⟨hstarts, (haffix _).2 (.inl ⟨.list, .list ⟨rfl, rfl⟩, rfl⟩)⟩,
    ⟨hcontains, (hitem _).2 (.inl ⟨one.type, hmixed, rfl⟩), hread, hnull hread⟩, hne, ?_⟩
  exact (hconjunction .insensitive _ _ true hne).2 (by decide +kernel)

end Op
end RecordQuery

/-
# Fanning out hides no fault and depends on no order

A key holds of a node if its lookup holds at some place that its path leads to,
and fails as the first place at fault does, in the order of
`KeyPath.places`; a fault is reported even if the lookup has held before it.  A
pattern is prepared once for all places, which agrees with preparing it at every
value (`Lookup.applyWith_eq_apply`).

Whether a key holds, and whether it fails, is a matter of which places there are
and not of their order.  So it stays the same when the members of datasets
change places, at any depth (`Node.Shuffled`).
-/

import RecordQuery.Proofs.DistinctNames
import RecordQuery.Proofs.Places

namespace RecordQuery

/-- **Preparing the pattern once is preparing it at every value.** -/
theorem Lookup.applyWith_eq_apply [PatternEngine] {lookup : Lookup} {operand : Operand}
    {pattern : Option Pattern} (h : lookup.prepare operand = .ok pattern) (v : Value) :
    lookup.applyWith pattern v operand = lookup.apply v operand := by
  cases lookup with
  | custom name accepts predicate => rfl
  | builtin op =>
    have heval : op.evalWith pattern v operand = op.evalWith none v operand := by
      cases op with
      | regex rule =>
        obtain ⟨p, hp, rfl⟩ := map_eq_ok_iff.1 h
        simp only [Op.evalWith, hp]
        rfl
      | _ => rfl
    simp only [apply, applyWith, heval]

/-! ### Shuffled members -/

mutual

/-- A node with the members of nested datasets in another order, at any depth. -/
inductive Node.Shuffled : Node → Node → Prop where
  | ofFields {fields fields' : List (String × Field)} :
    List.Forall₂ FieldShuffled fields fields' → Node.Shuffled (.ofFields fields) (.ofFields fields')

/-- A field, under the name that it stands under, with the members of nested datasets in
another order. -/
inductive FieldShuffled : String × Field → String × Field → Prop where
  | scalar (key name : String) (s : Scalar) :
    FieldShuffled (key, ⟨name, .scalar s⟩) (key, ⟨name, .scalar s⟩)
  | array (key name : String) (items : List Scalar) :
    FieldShuffled (key, ⟨name, .array items⟩) (key, ⟨name, .array items⟩)
  | node (key name : String) {n n' : Node} :
    Node.Shuffled n n' → FieldShuffled (key, ⟨name, .node n⟩) (key, ⟨name, .node n'⟩)
  | dataset (key name : String) {members members' members'' : List Node} :
    List.Forall₂ Node.Shuffled members members' → members'.Perm members'' →
      FieldShuffled (key, ⟨name, .dataset members⟩) (key, ⟨name, .dataset members''⟩)

end

section

variable {entry entry' : String × Field} (h : FieldShuffled entry entry')
include h

/-- A shuffled field stands under the same name. -/
theorem FieldShuffled.name_eq : entry.1 = entry'.1 := by
  cases h <;> rfl

/-- A value field is not shuffled, and a related one stays related. -/
theorem FieldShuffled.isRelated_eq : entry.2.isRelated = entry'.2.isRelated := by
  cases h <;> rfl

/-- A path that ends on a field can not tell the field from a shuffled one. -/
theorem FieldShuffled.ofContent_eq :
    Place.ofContent entry.2.content = Place.ofContent entry'.2.content := by
  cases h with
  | dataset key name hshuffled hperm =>
    have hlength := hshuffled.length_eq.trans hperm.length_eq
    rename_i members members' members''
    cases members <;> cases members'' <;> simp_all [Place.ofContent]
  | _ => rfl

end

/-- A shuffled node has the same names in the same order. -/
theorem Node.Shuffled.names_eq {n n' : Node} (h : n.Shuffled n') : n.names = n'.names := by
  obtain ⟨h⟩ := h
  exact Entries.names_eq_of_forall₂ (h.imp fun _ _ hentry => hentry.name_eq)

/-- Under every name there is the same field, shuffled. -/
theorem Node.Shuffled.get? {n n' : Node} (h : n.Shuffled n') (name : String) :
    (n.get? name = none ∧ n'.get? name = none) ∨ ∃ field field',
      n.get? name = some field ∧ n'.get? name = some field' ∧
        FieldShuffled (name, field) (name, field') := by
  obtain ⟨h⟩ := h
  induction h with
  | nil => exact .inl ⟨rfl, rfl⟩
  | @cons entry entry' fields fields' hentry _ ih =>
    obtain ⟨a, field⟩ := entry
    obtain ⟨b, field'⟩ := entry'
    obtain rfl : a = b := hentry.name_eq
    simp only [Node.get?, Node.fields, Entries.get?] at ih ⊢
    by_cases ha : a = name
    · subst ha
      exact .inr ⟨field, field', if_pos rfl, if_pos rfl, hentry⟩
    · rw [if_neg ha, if_neg ha]
      exact ih

/-- Lists that correspond one by one lead to the same things in another order if their members
do. -/
theorem perm_flatMap_of_forall₂ {α β : Type} {R : α → α → Prop} {f : α → List β}
    {as bs : List α} (hf : ∀ a b, R a b → (f a).Perm (f b)) (h : List.Forall₂ R as bs) :
    (as.flatMap f).Perm (bs.flatMap f) := by
  induction h with
  | nil => rfl
  | cons hab _ ih => exact (hf _ _ hab).append ih

/-- The nodes of a shuffled field, each of them shuffled, are in another order. -/
theorem FieldShuffled.related_perm {β : Type} {f : Node → List β} {entry entry' : String × Field}
    (hf : ∀ m m' : Node, m.Shuffled m' → (f m).Perm (f m')) (h : FieldShuffled entry entry') :
    (entry.2.related.flatMap f).Perm (entry'.2.related.flatMap f) := by
  cases h with
  | scalar key name s => rfl
  | array key name items => rfl
  | node key name hn => simpa [Field.related, Content.related] using hf _ _ hn
  | dataset key name hshuffled hperm =>
    exact (perm_flatMap_of_forall₂ hf hshuffled).trans (hperm.flatMap_right f)

/-- **The places of a shuffled node are the same ones in another order.** -/
theorem Node.Shuffled.placesFrom_perm {name : String} {rest : List String} {n n' : Node}
    (h : n.Shuffled n') :
    (KeyPath.placesFrom name rest n).Perm (KeyPath.placesFrom name rest n') := by
  induction rest generalizing name n n' with
  | nil =>
    rcases h.get? name with ⟨hn, hn'⟩ | ⟨field, field', hn, hn', hentry⟩
    · rw [KeyPath.placesFrom_missing hn, KeyPath.placesFrom_missing hn', h.names_eq]
    · rw [KeyPath.placesFrom_nil hn, KeyPath.placesFrom_nil hn', hentry.ofContent_eq]
  | cons next rest ih =>
    rcases h.get? name with ⟨hn, hn'⟩ | ⟨field, field', hn, hn', hentry⟩
    · rw [KeyPath.placesFrom_missing hn, KeyPath.placesFrom_missing hn', h.names_eq]
    · have hsame : field.isRelated = field'.isRelated := hentry.isRelated_eq
      by_cases hr : field.isRelated
      · have hr' : field'.isRelated := hsame ▸ hr
        rw [KeyPath.placesFrom_cons hn hr, KeyPath.placesFrom_cons hn' hr']
        exact hentry.related_perm fun m m' hm => ih hm
      · have hr' : ¬field'.isRelated := hsame ▸ hr
        rw [KeyPath.placesFrom_cons_value hn hr, KeyPath.placesFrom_cons_value hn' hr']

/-! ### Resolving a key -/

namespace KeyPath

/-- Resolving a key is one scan of the places that its path leads to, with the lookup applied
to each value by itself. -/
theorem resolve_eq_anyMember [PatternEngine] {path : KeyPath} {operand : Operand}
    {pattern : Option Pattern} (h : path.lookup.prepare operand = .ok pattern) (n : Node) :
    path.resolve operand n =
      anyMember (Place.outcome path (path.lookup.apply · operand)) (path.places n) := by
  have hresolve : path.resolve operand n = path.resolveWith pattern operand n := by
    simp only [resolve, h]
    rfl
  rw [hresolve, resolveWith, follow_eq_anyMember, funext (Lookup.applyWith_eq_apply h), places]

/-- If nothing is at fault, asking the places is asking the values at them. -/
theorem any_outcome_eq {path : KeyPath} {test : Value → Except LookupError Bool}
    {places : List Place} (h : ∀ place ∈ places, (place.outcome path test).isOk) :
    (places.any fun place => place.outcome path test = .ok true) =
      (places.filterMap Place.value?).any fun v => test v = .ok true := by
  induction places with
  | nil => rfl
  | cons place places ih =>
    obtain ⟨b, hb⟩ := isOk_iff.1 (h place List.mem_cons_self)
    obtain ⟨v, hv, htest⟩ := Place.outcome_eq_ok hb
    rw [List.any_cons, List.filterMap_cons_some hv, List.any_cons, hb, htest,
      ih fun p hp => h p (List.mem_cons_of_mem _ hp)]

/-- Resolving a key succeeds if no place is at fault, and the values decide what it gives. -/
theorem resolve_eq_ok_iff [PatternEngine] {path : KeyPath} {operand : Operand}
    {pattern : Option Pattern} (h : path.lookup.prepare operand = .ok pattern) {n : Node}
    {b : Bool} :
    path.resolve operand n = .ok b ↔
      (∀ place ∈ path.places n, (place.outcome path (path.lookup.apply · operand)).isOk) ∧
        b = ((path.places n).filterMap Place.value?).any
          fun v => path.lookup.apply v operand = .ok true := by
  rw [resolve_eq_anyMember h, anyMember_eq_ok_iff]
  exact and_congr_right fun hok => by rw [any_outcome_eq hok]

/-- **A key holds if its lookup holds somewhere, and no fault is hidden.**  Let the
operand have a pattern where the lookup takes one.

* Resolving fails as the first place at fault does, depth first.
* It succeeds if no place is at fault, and the result is whether the lookup,
  applied with a pattern of its own, holds of the value at some place.
* The order in which the members of datasets stand decides neither the result nor
  whether there is one. -/
theorem resolve_fanOut [PatternEngine] {path : KeyPath} {operand : Operand}
    {pattern : Option Pattern} (h : path.lookup.prepare operand = .ok pattern) (n : Node) :
    (∀ e, path.resolve operand n = .error e ↔
      FirstFault (Place.outcome path (path.lookup.apply · operand)) (path.places n) e) ∧
    (∀ b, path.resolve operand n = .ok b ↔
      (∀ place ∈ path.places n, (place.outcome path (path.lookup.apply · operand)).isOk) ∧
        b = ((path.places n).filterMap Place.value?).any
          fun v => path.lookup.apply v operand = .ok true) ∧
    ∀ n', n.Shuffled n' →
      ((path.resolve operand n').isOk ↔ (path.resolve operand n).isOk) ∧
        ∀ b, path.resolve operand n' = .ok b ↔ path.resolve operand n = .ok b := by
  have hshuffled : ∀ n', n.Shuffled n' → ∀ b,
      path.resolve operand n' = .ok b ↔ path.resolve operand n = .ok b := by
    intro n' hn b
    have hperm : (path.places n).Perm (path.places n') := hn.placesFrom_perm
    have hany := (hperm.filterMap Place.value?).any_eq
      (f := fun v => path.lookup.apply v operand = .ok true)
    simp only [resolve_eq_ok_iff h, hany, hperm.mem_iff]
  refine ⟨fun e => ?_, fun b => resolve_eq_ok_iff h, fun n' hn => ⟨?_, hshuffled n' hn⟩⟩
  · rw [resolve_eq_anyMember h, anyMember_eq_error_iff]
  · rw [isOk_iff, isOk_iff]
    exact exists_congr (hshuffled n' hn)

/-- The key `books__title__regex`. -/
def titleMatches : KeyPath :=
  ⟨"books__title__regex", "books", ["title"], .builtin (.regex .sensitive)⟩

/-- A record of two books with these titles. -/
def twoBooks (first second : Scalar) : Node :=
  .ofContents [("books", .dataset [.ofContents [("title", .scalar first)],
    .ofContents [("title", .scalar second)]])]

/-- The hypothesis is satisfiable by a pattern.  It is found in one of two titles,
whichever book is first; and a title that is no string is reported although the
book before it has matched. -/
theorem resolve_fanOut_twoBooks :
    parse .builtin titleMatches.key = .ok titleMatches ∧
    (titleMatches.lookup.prepare (.scalar (.string "^a"))).isOk ∧
    titleMatches.resolve (.scalar (.string "^a")) (twoBooks (.string "ab") .null) = .ok true ∧
    titleMatches.resolve (.scalar (.string "^a")) (twoBooks .null (.string "ab")) = .ok true ∧
    titleMatches.resolve (.scalar (.string "^a")) (twoBooks (.string "ab") (.bool true)) =
      .error (.typeMismatch "regex" .bool .string) := by
  have hpattern : (titleMatches.lookup.prepare (.scalar (.string "^a"))).isOk := by decide +kernel
  obtain ⟨pattern, h⟩ := isOk_iff.1 hpattern
  obtain ⟨-, hok, hshuffled⟩ := resolve_fanOut h (twoBooks .null (.string "ab"))
  obtain ⟨hfault, -⟩ := resolve_fanOut h (twoBooks (.string "ab") (.bool true))
  have hsame : ∀ title : Scalar,
      (Node.ofContents [("title", .scalar title)]).Shuffled
        (.ofContents [("title", .scalar title)]) :=
    fun title => ⟨.cons (.scalar _ _ title) .nil⟩
  have hswap : (twoBooks .null (.string "ab")).Shuffled (twoBooks (.string "ab") .null) :=
    ⟨.cons (.dataset _ _ (.cons (hsame _) (.cons (hsame _) .nil)) (.swap ..)) .nil⟩
  have htrue := (hok true).2 ⟨by decide +kernel, by decide +kernel⟩
  refine ⟨rfl, hpattern, ((hshuffled _ hswap).2 true).2 htrue, htrue, (hfault _).2 ?_⟩
  exact ⟨[.value (.scalar (.string "ab"))], .value (.scalar (.bool true)), [], rfl,
    by decide +kernel, by decide +kernel⟩

end KeyPath
end RecordQuery

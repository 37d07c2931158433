/-
# Equal nodes are those that mean the same

What a node means is which content is under which name; in what order its fields stand
is no part of it, and neither is the storage of a number, which means its exact value
(`Node.meaning`).  The order inside arrays and datasets is.

Comparing two nodes looks up the fields of the first in the second, and counts them.  As
neither has a name twice, that is to compare what is under every name
(`Node.same_iff_forall_get?`), so nodes that come from records are equal exactly if they
mean the same (`Node.Built.same_iff_meaning_eq`).  Fields are also compared by the names
that they bear, which tells no such nodes apart, since these are the names they stand under.
-/

import Mathlib.Data.List.Nodup
import Mathlib.Data.List.Perm.Subperm
import RecordQuery.Proofs.ExactOrder
import RecordQuery.Proofs.WellFormed

namespace RecordQuery

/-! ### Meanings -/

/-- What a scalar means: a number its exact value, if it has one. -/
inductive ScalarMeaning where
  | null
  | bool (b : Bool)
  | number (value : Option ExtendedRat)
  | string (s : String)

/-- What a value means: its shape and its items in order. -/
inductive ValueMeaning where
  | scalar (s : ScalarMeaning)
  | array (items : List ScalarMeaning)

mutual

/-- What a node means: what is under each name. -/
inductive NodeMeaning where
  | ofFields (content : String → Option ContentMeaning)

/-- What a field means. -/
inductive ContentMeaning where
  | value (v : ValueMeaning)
  | node (n : NodeMeaning)
  | dataset (members : List NodeMeaning)

end

/-- What a scalar means. -/
def Scalar.meaning : Scalar → ScalarMeaning
  | .null => .null
  | .bool b => .bool b
  | .number n => .number n.value?
  | .string s => .string s

/-- What a value means. -/
def Value.meaning : Value → ValueMeaning
  | .scalar s => .scalar s.meaning
  | .array items => .array (items.map Scalar.meaning)

mutual

/-- **What a node means.** -/
def Node.meaning : Node → NodeMeaning
  | .ofFields fields => .ofFields (fieldsMeaning fields)
termination_by structural n => n

/-- What is under a name among some fields. -/
def fieldsMeaning : List (String × Field) → String → Option ContentMeaning
  | [], _ => none
  | (other, ⟨_, content⟩) :: fields, name =>
    if other = name then some content.meaning else fieldsMeaning fields name
termination_by structural fields => fields

/-- What a field means. -/
def Content.meaning : Content → ContentMeaning
  | .scalar s => .value (.scalar s.meaning)
  | .array items => .value (.array (items.map Scalar.meaning))
  | .node n => .node n.meaning
  | .dataset members => .dataset (membersMeaning members)
termination_by structural content => content

/-- What the members of a dataset mean. -/
def membersMeaning : List Node → List NodeMeaning
  | [] => []
  | n :: nodes => n.meaning :: membersMeaning nodes
termination_by structural nodes => nodes

end

/-- Members mean what each of them means. -/
theorem membersMeaning_eq_map (members : List Node) :
    membersMeaning members = members.map Node.meaning := by
  induction members with
  | nil => rfl
  | cons n members ih => rw [membersMeaning, ih, List.map_cons]

/-- What a field means: what it holds means. -/
def Field.meaning (field : Field) : ContentMeaning := field.content.meaning

/-- What is under a name means what the field found there means. -/
theorem fieldsMeaning_eq_map (fields : List (String × Field)) (name : String) :
    fieldsMeaning fields name = (Entries.get? name fields).map Field.meaning := by
  induction fields with
  | nil => rfl
  | cons entry fields ih =>
    obtain ⟨other, _, content⟩ := entry
    rw [fieldsMeaning, Entries.get?]
    split
    · rfl
    · exact ih

/-- Nodes mean the same if the same is under each name. -/
theorem Node.meaning_eq_iff {n m : Node} : n.meaning = m.meaning ↔
    ∀ name, (n.get? name).map Field.meaning = (m.get? name).map Field.meaning := by
  obtain ⟨fields⟩ := n
  obtain ⟨fields'⟩ := m
  rw [Node.meaning, Node.meaning, NodeMeaning.ofFields.injEq, funext_iff]
  simp only [fieldsMeaning_eq_map, Node.get?, Node.fields]

/-! ### Scalars -/

/-- Numbers are equal if they have the same exact value, so one without a value equals none. -/
theorem Number.same_iff {a b : Number} :
    a.same b ↔ ∃ v, a.value? = some v ∧ b.value? = some v := by
  rw [same, compare?_eq_cmp, beq_iff_eq]
  cases a.value? with
  | none => exact iff_of_false (by rintro ⟨⟩) (by rintro ⟨v, ⟨⟩, -⟩)
  | some v =>
    cases b.value? with
    | none => exact iff_of_false (by rintro ⟨⟩) (by rintro ⟨v, -, ⟨⟩⟩)
    | some w =>
      calc some (cmp v w) = some Ordering.eq ↔ w = v := by
            rw [Option.some.injEq, cmp_eq_eq_iff, eq_comm]
        _ ↔ ∃ u, some v = some u ∧ some w = some u := by simp

/-- A number as records hold it is not NaN. -/
theorem Number.IsStored.not_isNaN {n : Number} (h : n.IsStored) : ¬n.isNaN := by
  cases n with
  | float x => simp [isNaN, Binary64.isNaN_eq_false_of_isFinite h]
  | _ => simp [isNaN]

/-- A number as records hold it has an exact value. -/
theorem Number.IsStored.exists_value? {n : Number} (h : n.IsStored) :
    ∃ v, n.value? = some v :=
  Option.ne_none_iff_exists'.1 (value?_eq_none_iff.not.2 h.not_isNaN)

/-- **Scalars are equal exactly if they mean the same.** -/
theorem Scalar.same_iff_meaning_eq {s t : Scalar} (hs : s.IsStored) :
    s.same t ↔ s.meaning = t.meaning := by
  cases s with
  | number a =>
    cases t with
    | number b =>
      obtain ⟨v, hv⟩ := Number.IsStored.exists_value? hs
      rw [same, Number.same_iff, meaning, meaning, ScalarMeaning.number.injEq, hv]
      simp [eq_comm]
    | _ => simp [same, meaning]
  | _ => cases t <;> simp [same, meaning]

/-- So a scalar as records hold it equals itself. -/
theorem Scalar.IsStored.same_self {s : Scalar} (h : s.IsStored) : s.same s :=
  (Scalar.same_iff_meaning_eq h).2 rfl

/-! ### Nodes -/

/-- Lists are equal item by item exactly if their items mean the same one by one. -/
theorem isEqv_iff_map_eq {α β : Type} {r : α → α → Bool} {f : α → β} {as bs : List α}
    (h : ∀ a ∈ as, ∀ b ∈ bs, r a b ↔ f a = f b) : as.isEqv bs r ↔ as.map f = bs.map f := by
  induction as generalizing bs with
  | nil => cases bs <;> simp [List.isEqv]
  | cons a as ih =>
    cases bs with
    | nil => simp [List.isEqv]
    | cons b bs =>
      have hrest := ih fun a' ha' b' hb' =>
        h a' (List.mem_cons_of_mem _ ha') b' (List.mem_cons_of_mem _ hb')
      rw [List.isEqv, Bool.and_eq_true, h a List.mem_cons_self b List.mem_cons_self, hrest,
        List.map_cons, List.map_cons, List.cons.injEq]

/-- Lists of nodes are compared one by one. -/
theorem sameNodes_eq_isEqv (as bs : List Node) : sameNodes as bs = as.isEqv bs Node.same := by
  induction as generalizing bs with
  | nil => cases bs <;> rfl
  | cons a as ih =>
    cases bs with
    | nil => rfl
    | cons b bs => rw [sameNodes, List.isEqv, ih]

/-- Fields are among others if each has an equal one under its name. -/
theorem fieldsAmong_iff {fields others : List (String × Field)} :
    fieldsAmong fields others ↔ ∀ entry ∈ fields, ∃ other,
      Entries.get? entry.1 others = some other ∧ entry.2.same other := by
  induction fields with
  | nil => simp [fieldsAmong]
  | cons entry fields ih =>
    obtain ⟨key, name, content⟩ := entry
    rw [fieldsAmong, Bool.and_eq_true, ih, List.forall_mem_cons]
    refine and_congr_left fun _ => ?_
    cases Entries.get? key others <;> simp [Field.same]

namespace Node

/-- What is related is there together. -/
theorem isSome_iff_of_rel {α β : Type} {r : α → β → Prop} {a : Option α} {b : Option β}
    (h : Option.Rel r a b) : a.isSome ↔ b.isSome := by
  cases h <;> exact Iff.rfl

/-- A field is found under the names of a node and no others. -/
theorem isSome_get?_iff {n : Node} {name : String} : (n.get? name).isSome ↔ name ∈ n.names :=
  Entries.isSome_get?_iff name n.fields

/-- **Comparing two nodes is comparing what is under each name.**  As many fields, and
each field of the first in the second: then there is no name in the second alone. -/
theorem same_iff_forall_get? {n m : Node} (hn : n.names.Nodup) (hm : m.names.Nodup) :
    n.same m ↔ ∀ name, Option.Rel (fun field other => field.same other) (n.get? name)
      (m.get? name) := by
  have hsame : n.same m ↔ n.names.length = m.names.length ∧ ∀ entry ∈ n.fields, ∃ other,
      m.get? entry.1 = some other ∧ entry.2.same other := by
    obtain ⟨fields⟩ := n
    rw [Node.same, Bool.and_eq_true, fieldsAmong_iff, beq_iff_eq, names, names, Entries.names,
      Entries.names, List.length_map, List.length_map]
    rfl
  rw [hsame]
  constructor
  · rintro ⟨hlength, hfields⟩ name
    have hsubset : n.names ⊆ m.names := by
      intro name hname
      obtain ⟨entry, hentry, rfl⟩ := List.mem_map.1 hname
      obtain ⟨other, hother, -⟩ := hfields entry hentry
      exact isSome_get?_iff.1 (hother ▸ rfl)
    have hperm : n.names.Perm m.names :=
      (List.subperm_of_subset hn hsubset).perm_of_length_le hlength.ge
    cases hget : n.get? name with
    | some field =>
      obtain ⟨other, hother, hfield⟩ := hfields (name, field) (Entries.mem_of_get? hget)
      exact hother ▸ .some hfield
    | none =>
      have hnone : m.get? name = none := by
        rw [← Option.not_isSome_iff_eq_none, isSome_get?_iff, ← hperm.mem_iff, ← isSome_get?_iff,
          hget]
        exact Bool.false_ne_true
      rw [hnone]
      exact .none
  · intro h
    have hnames : ∀ name, name ∈ n.names ↔ name ∈ m.names := by
      intro name
      rw [← isSome_get?_iff, ← isSome_get?_iff, isSome_iff_of_rel (h name)]
    have hperm : n.names.Perm m.names := (List.perm_ext_iff_of_nodup hn hm).2 hnames
    refine ⟨hperm.length_eq, fun entry hentry => ?_⟩
    have hget : n.get? entry.1 = some entry.2 := Entries.get?_of_mem hn hentry
    have hrel := h entry.1
    rw [hget] at hrel
    cases hother : m.get? entry.1 with
    | none =>
      rw [hother] at hrel
      cases hrel
    | some other =>
      rw [hother] at hrel
      cases hrel with
      | some hfield => exact ⟨other, rfl, hfield⟩

end Node

/-- What fields hold is equal exactly if it means the same, given that of the nodes in it. -/
theorem Content.same_iff_meaning_eq {content other : Content} (hstored : content.IsStored)
    (h : ∀ child ∈ content.related, ∀ child' ∈ other.related,
      child.same child' ↔ child.meaning = child'.meaning) :
    content.same other ↔ content.meaning = other.meaning := by
  cases content with
  | scalar s =>
    cases other with
    | scalar t =>
      rw [same, Scalar.same_iff_meaning_eq hstored, meaning, meaning, ContentMeaning.value.injEq,
        ValueMeaning.scalar.injEq]
    | _ => simp [same, meaning]
  | array items =>
    cases other with
    | array items' =>
      have hitems : items.isEqv items' Scalar.same ↔
          items.map Scalar.meaning = items'.map Scalar.meaning :=
        isEqv_iff_map_eq fun s hs t _ => Scalar.same_iff_meaning_eq (hstored.2 s hs)
      rw [same, hitems, meaning, meaning, ContentMeaning.value.injEq, ValueMeaning.array.injEq]
    | _ => simp [same, meaning]
  | node n =>
    cases other with
    | node m =>
      rw [same, h n (List.mem_singleton.2 rfl) m (List.mem_singleton.2 rfl), meaning, meaning,
        ContentMeaning.node.injEq]
    | _ => simp [same, meaning]
  | dataset members =>
    cases other with
    | dataset members' =>
      have hmembers : members.isEqv members' Node.same ↔
          members.map Node.meaning = members'.map Node.meaning := isEqv_iff_map_eq h
      rw [same, sameNodes_eq_isEqv, hmembers, meaning, meaning, ContentMeaning.dataset.injEq,
        membersMeaning_eq_map, membersMeaning_eq_map]
    | _ => simp [same, meaning]

namespace Node

/-- **Indexed nodes are equal exactly if they mean the same.**  The induction is on the first
node, whose numbers must have values.  Fields under one name bear that name, so comparing the
names that they bear tells no more nodes apart. -/
theorem Indexed.same_iff_meaning_eq {n m : Node} (hn : n.Indexed) (hm : m.Indexed)
    {depth : Nat} (hformed : n.WellFormed depth) : n.same m ↔ n.meaning = m.meaning := by
  induction n using Node.induction generalizing m depth with
  | step n ih =>
    obtain ⟨hnames, -⟩ := hn.distinct
    obtain ⟨hnames', -⟩ := hm.distinct
    obtain ⟨hfields, hformed⟩ := hformed
    rw [same_iff_forall_get? hnames hnames', meaning_eq_iff]
    refine forall_congr' fun name => ?_
    cases hget : n.get? name with
    | none =>
      cases hget' : m.get? name with
      | none => exact iff_of_true .none rfl
      | some other => exact iff_of_false (nomatch ·) (by simp)
    | some field =>
      cases hget' : m.get? name with
      | none => exact iff_of_false (nomatch ·) (by simp)
      | some other =>
        have hmem : (name, field) ∈ n.fields := Entries.mem_of_get? hget
        have hname : field.name = other.name :=
          (hn.named.name_eq hget).trans (hm.named.name_eq hget').symm
        have hcontent := Content.same_iff_meaning_eq (hfields _ hmem).stored
          fun child hchild child' hchild' => ih _ _ hmem child hchild (hn.of_related hget hchild)
            (hm.of_related hget' hchild') (hformed _ hmem child hchild)
        have hfield : field.same other ↔ field.meaning = other.meaning := by
          rw [Field.same, hname, beq_self_eq_true, Bool.true_and, hcontent, Field.meaning,
            Field.meaning]
        rw [Option.map_some, Option.map_some, Option.some.injEq, ← hfield]
        exact ⟨fun h => by cases h; assumption, fun h => .some h⟩

/-- **Nodes that come from records are equal exactly if they mean the same.** -/
theorem Built.same_iff_meaning_eq [PatternEngine] {n m : Node} (hn : n.Built) (hm : m.Built) :
    n.same m ↔ n.meaning = m.meaning :=
  hn.indexed.same_iff_meaning_eq hm.indexed hn.wellFormed

/-- In which order its fields stand is no part of what a node means. -/
theorem meaning_eq_of_perm {n m : Node} (hnames : n.names.Nodup) (h : n.fields.Perm m.fields) :
    n.meaning = m.meaning := by
  have hnames' : m.names.Nodup := (h.map Prod.fst).nodup hnames
  refine meaning_eq_iff.2 fun name => congrArg _ (Option.ext fun field => ?_)
  exact ⟨fun hget => Entries.get?_of_mem hnames' (h.mem_iff.1 (Entries.mem_of_get? hget)),
    fun hget => Entries.get?_of_mem hnames (h.mem_iff.2 (Entries.mem_of_get? hget))⟩

end Node
end RecordQuery

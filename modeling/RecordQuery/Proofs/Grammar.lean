/-
# A grammar of records

Which records are accepted can be said without going through them: every part of a record fits
the level at which it stands (`Json.IsRecord`).

| part at a level | what is asked of it (`Json.FitsAt`) |
| --- | --- |
| object | no name holds the separator; if there are members, the level is at most `maxDepth` |
| array | all items are objects, or all items are leaves |
| leaf | nothing |

The level of a part is the number of members that lead to it (`Json.Part`).  If the part is
an object, this is how many members enclose each of the members of the object.  Items of
arrays add none.

What a record is read as can be said so, too (`Json.Classified`), and it is one thing only
(`Json.Classified.unique`).
-/

import RecordQuery.Proofs.DistinctNames
import RecordQuery.Proofs.Spelling

namespace RecordQuery

/-! ### The grammar -/

namespace Json

/-- `value.Part level part`: from a value, `level` members of objects, one inside the
other, lead to a part; items of arrays are entered on the way. -/
inductive Part : Json → Nat → Json → Prop where
  | self (value : Json) : Part value 0 value
  | member {members : List (String × Json)} {member : String × Json} {level : Nat} {part : Json} :
    member ∈ members → Part member.2 level part → Part (.object members) (level + 1) part
  | item {items : List Json} {item : Json} {level : Nat} {part : Json} :
    item ∈ items → Part item level part → Part (.array items) level part

/-- Whether a value is neither an array nor an object. -/
def isLeaf : Json → Bool
  | .array _ => false
  | .object _ => false
  | _ => true

/-- What is asked of a value to which `level` members lead. -/
def FitsAt (level : Nat) : Json → Prop
  | .object members =>
    ∀ member ∈ members, ¬['_', '_'] <:+: member.1.toList ∧ level ≤ maxDepth
  | .array items => (∀ item ∈ items, item.isObject) ∨ ∀ item ∈ items, item.isLeaf
  | _ => True

/-- Every part of a value to which `level` members lead fits. -/
def Fits (level : Nat) (value : Json) : Prop :=
  ∀ below part, value.Part below part → part.FitsAt (level + below)

/-- **A record:** an object of which every part fits. -/
def IsRecord (value : Json) : Prop := value.isObject ∧ value.Fits 0

/-- `value.Classified content`: what a field holds for a value.  The members of an object
keep their names and their order, and the fields bear these names; items keep their order; an
empty array is a dataset, not an array of scalars. -/
inductive Classified : Json → Content → Prop where
  | scalar {value : Json} {s : Scalar} : Scalar.ofJson? value = some s →
    Classified value (.scalar s)
  | array {items : List Json} {scalars : List Scalar} : items ≠ [] →
    List.Forall₂ (fun item s => Scalar.ofJson? item = some s) items scalars →
      Classified (.array items) (.array scalars)
  | node {members : List (String × Json)} {fields : List (String × Field)} :
    List.Forall₂ (fun member entry => entry.1 = member.1 ∧ entry.2.name = member.1)
      members fields →
      List.Forall₂ (fun member entry => Classified member.2 entry.2.content) members fields →
        Classified (.object members) (.node (.ofFields fields))
  | dataset {items : List Json} {nodes : List Node} :
    List.Forall₂ (fun item n => Classified item (.node n)) items nodes →
      Classified (.array items) (.dataset nodes)

/-- **Induction over values:** items before their array, members before their object. -/
theorem induction {P : Json → Prop} (leaf : ∀ value : Json, value.isLeaf → P value)
    (array : ∀ items, (∀ item ∈ items, P item) → P (.array items))
    (object : ∀ members, (∀ member : String × Json, member ∈ members → P member.2) →
      P (.object members)) (value : Json) : P value := by
  refine @Json.rec P (fun items => ∀ item ∈ items, P item)
    (fun members => ∀ member ∈ members, P member.2) (fun member => P member.2)
    (leaf _ rfl) (fun _ => leaf _ rfl) (fun _ => leaf _ rfl) (fun _ => leaf _ rfl) array object
    (List.forall_mem_nil _) ?_ (List.forall_mem_nil _) ?_ (fun _ _ h => h) value
  · exact fun _ _ hitem hitems => List.forall_mem_cons.2 ⟨hitem, hitems⟩
  · exact fun _ _ hmember hmembers => List.forall_mem_cons.2 ⟨hmember, hmembers⟩

variable {level : Nat} {value : Json}

/-- The leaves are what a scalar is read from. -/
theorem isLeaf_iff : value.isLeaf ↔ ∃ s, Scalar.ofJson? value = some s := by
  cases value <;> simp [isLeaf, Scalar.ofJson?]

/-- A leaf fits everywhere. -/
theorem fits_of_isLeaf (h : value.isLeaf) : value.Fits level := by
  intro below part hpart
  cases hpart with
  | self => cases value <;> trivial
  | member hmem _ => cases h
  | item hitem _ => cases h

/-- An array fits if its items are all records or all leaves, and each of them fits. -/
theorem fits_array_iff {items : List Json} : (array items).Fits level ↔
    ((∀ item ∈ items, item.isObject) ∨ ∀ item ∈ items, item.isLeaf) ∧
      ∀ item ∈ items, item.Fits level := by
  constructor
  · intro h
    exact ⟨h 0 _ (.self _), fun item hitem below part hpart => h below part (.item hitem hpart)⟩
  · rintro ⟨hitems, hbelow⟩ below part hpart
    cases hpart with
    | self => exact hitems
    | item hitem hpart => exact hbelow _ hitem below part hpart

/-- An object fits if each member may stand at its level, and what is below fits one level
further down. -/
theorem fits_object_iff {members : List (String × Json)} : (object members).Fits level ↔
    ∀ member ∈ members, (¬['_', '_'] <:+: member.1.toList ∧ level ≤ maxDepth) ∧
      member.2.Fits (level + 1) := by
  constructor
  · intro h member hmember
    refine ⟨h 0 _ (.self _) member hmember, fun below part hpart => ?_⟩
    have hlevel : level + 1 + below = level + (below + 1) := by omega
    rw [hlevel]
    exact h (below + 1) part (.member hmember hpart)
  · intro h below part hpart
    cases hpart with
    | self => exact fun member hmember => (h member hmember).1
    | @member _ member below _ hmember hpart =>
      have hlevel : level + (below + 1) = level + 1 + below := by omega
      rw [hlevel]
      exact (h member hmember).2 below part hpart

/-- The members of an object and the fields of its node correspond one by one. -/
theorem classified_object_iff {members : List (String × Json)} {content : Content} :
    (object members).Classified content ↔ ∃ fields, content = .node (.ofFields fields) ∧
      List.Forall₂ (fun member entry => (entry.1 = member.1 ∧ entry.2.name = member.1) ∧
        Classified member.2 entry.2.content) members fields := by
  constructor
  · intro h
    cases h with
    | scalar hs => cases hs
    | node hnames hfields => exact ⟨_, rfl, hnames.mp (fun _ _ => And.intro) hfields⟩
  · rintro ⟨fields, rfl, hall⟩
    exact .node (hall.imp fun _ _ hmember => hmember.1) (hall.imp fun _ _ hmember => hmember.2)

/-- The first item of an array of scalars can not be one of a dataset. -/
theorem not_scalars_of_nodes {items : List Json} {scalars : List Scalar} {nodes : List Node}
    (hsome : items ≠ [])
    (hnodes : List.Forall₂ (fun item n => Classified item (.node n)) items nodes) :
    ¬List.Forall₂ (fun item s => Scalar.ofJson? item = some s) items scalars := by
  intro hscalars
  cases hscalars with
  | nil => exact hsome rfl
  | cons hs _ =>
    cases hnodes with
    | cons hn _ =>
      cases hn with
      | node => cases hs

/-- **A value is classified in one way.** -/
theorem Classified.unique {content content' : Content} (h : value.Classified content)
    (h' : value.Classified content') : content = content' := by
  induction value using Json.induction generalizing content content' with
  | leaf value hleaf =>
    cases h with
    | scalar hs =>
      cases h' with
      | scalar hs' => rw [Option.some.inj (hs.symm.trans hs')]
      | _ => cases hleaf
    | _ => cases hleaf
  | array items ih =>
    cases h with
    | scalar hs => cases hs
    | array hsome hs =>
      cases h' with
      | scalar hs' => cases hs'
      | array _ hs' =>
        have hitem : ∀ item ∈ items, ∀ s s', Scalar.ofJson? item = some s →
            Scalar.ofJson? item = some s' → s = s' :=
          fun _ _ _ _ hs hs' => Option.some.inj (hs.symm.trans hs')
        rw [forall₂_unique hitem hs hs']
      | dataset hnodes => exact (not_scalars_of_nodes hsome hnodes hs).elim
    | dataset hnodes =>
      cases h' with
      | scalar hs' => cases hs'
      | array hsome hs => exact (not_scalars_of_nodes hsome hnodes hs).elim
      | dataset hnodes' =>
        have hnode : ∀ item ∈ items, ∀ n n' : Node, item.Classified (.node n) →
            item.Classified (.node n') → n = n' :=
          fun item hitem _ _ hn hn' => Content.node.inj (ih item hitem hn hn')
        rw [forall₂_unique hnode hnodes hnodes']
  | object members ih =>
    obtain ⟨fields, rfl, hfields⟩ := classified_object_iff.1 h
    obtain ⟨fields', rfl, hfields'⟩ := classified_object_iff.1 h'
    have hentry : ∀ member ∈ members, ∀ entry entry' : String × Field,
        ((entry.1 = member.1 ∧ entry.2.name = member.1) ∧
          Classified member.2 entry.2.content) →
        ((entry'.1 = member.1 ∧ entry'.2.name = member.1) ∧
          Classified member.2 entry'.2.content) → entry = entry' := by
      rintro member hmember ⟨_, _, content⟩ ⟨_, _, content'⟩ ⟨⟨rfl, rfl⟩, hcontent⟩
        ⟨⟨rfl, rfl⟩, hcontent'⟩
      obtain rfl : content = content' := ih member hmember hcontent hcontent'
      rfl
    rw [forall₂_unique hentry hfields hfields']

end Json

/-! ### Deciding a condition -/

/-- `Decides accepts describes r`: what a classification does about a condition.  It
succeeds with a result as described if the condition holds, and otherwise refuses the
record as malformed. -/
inductive Decides {α : Type} (accepts : Prop) (describes : α → Prop) :
    Except LookupError α → Prop where
  | accepted {a : α} : accepts → describes a → Decides accepts describes (.ok a)
  | refused {fault : RecordFault} : ¬accepts →
    Decides accepts describes (.error (.malformedRecord fault))

namespace Decides

variable {α β : Type} {accepts accepts' : Prop} {describes : α → Prop} {describes' : β → Prop}
  {r : Except LookupError α}

/-- Success means that the condition holds. -/
theorem exists_ok_iff (h : Decides accepts describes r) : (∃ a, r = .ok a) ↔ accepts := by
  cases h with
  | accepted haccepts _ => exact iff_of_true ⟨_, rfl⟩ haccepts
  | refused hnot => exact iff_of_false (by simp) hnot

/-- A malformed record means that it does not. -/
theorem exists_error_iff (h : Decides accepts describes r) :
    (∃ fault, r = .error (.malformedRecord fault)) ↔ ¬accepts := by
  cases h with
  | accepted haccepts _ => exact iff_of_false (by simp) (not_not_intro haccepts)
  | refused hnot => exact iff_of_true ⟨_, rfl⟩ hnot

/-- A result is as described. -/
theorem describes_of_ok (h : Decides accepts describes r) {a : α} (hr : r = .ok a) :
    describes a := by
  cases h with
  | accepted _ hdescribes => exact Except.ok.inj hr ▸ hdescribes
  | refused _ => cases hr

/-- If only one result is as described, that is the result. -/
theorem eq_ok_iff (h : Decides accepts describes r)
    (hunique : ∀ a a', describes a → describes a' → a = a') {a : α} :
    r = .ok a ↔ accepts ∧ describes a := by
  constructor
  · intro hr
    exact ⟨h.exists_ok_iff.1 ⟨a, hr⟩, h.describes_of_ok hr⟩
  · rintro ⟨haccepts, ha⟩
    obtain ⟨a', hr⟩ := h.exists_ok_iff.2 haccepts
    rw [hr, hunique a' a (h.describes_of_ok hr) ha]

/-- A condition may be stated otherwise. -/
theorem congr (h : Decides accepts describes r) (hiff : accepts ↔ accepts') :
    Decides accepts' describes r := by
  cases h with
  | accepted haccepts hdescribes => exact .accepted (hiff.1 haccepts) hdescribes
  | refused hnot => exact .refused (hiff.not.1 hnot)

/-- What is made of a result is described by what it is made of. -/
theorem map (h : Decides accepts describes r) (f : α → β)
    (hf : ∀ a, describes a → describes' (f a)) : Decides accepts describes' (r.map f) := by
  cases h with
  | accepted haccepts hdescribes => exact .accepted haccepts (hf _ hdescribes)
  | refused hnot => exact .refused hnot

/-- **Classifying all members of a list decides the condition of all of them.** -/
theorem mapM {accepts : α → Prop} {describes : α → β → Prop} {test : α → Except LookupError β}
    {as : List α} (h : ∀ a ∈ as, Decides (accepts a) (describes a) (test a)) :
    Decides (∀ a ∈ as, accepts a) (List.Forall₂ describes as) (as.mapM test) := by
  induction as with
  | nil => exact .accepted (List.forall_mem_nil _) .nil
  | cons a as ih =>
    obtain ⟨hfirst, hrest⟩ := List.forall_mem_cons.1 h
    rw [List.mapM_cons]
    cases htest : test a with
    | error e =>
      rw [htest] at hfirst
      cases hfirst with
      | refused hnot => exact .refused fun hall => hnot (hall a List.mem_cons_self)
    | ok b =>
      rw [htest] at hfirst
      cases hfirst with
      | accepted haccepts hdescribes =>
        have hall : (∀ a ∈ as, accepts a) ↔ ∀ a' ∈ a :: as, accepts a' := by
          rw [List.forall_mem_cons, and_iff_right haccepts]
        exact ((ih hrest).map (b :: ·) fun bs hbs => .cons hdescribes hbs).congr hall

end Decides

end RecordQuery
